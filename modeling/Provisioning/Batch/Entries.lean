import Provisioning.Batch.Descriptor
/-!
# The subscribers of a batch

* `Entry` : one subscriber;
* `Sequences.nth?` : the subscriber at a position;
* `Cursor` : a position in a batch; `next?`, `nth`, `take` move it, `remaining`, `sizeHint`, `last?`
  do not;
* `Descriptor.cursor`, `Descriptor.entries` : the subscribers from the first one on.
-/

namespace Provisioning.Batch

structure Entry where
  iccid : String
  imsi : String
  msisdn : String
  deriving DecidableEq, Repr

/-- The ICCID gets its check digit. -/
def Sequences.nth? (s : Sequences) (i : Nat) : Option Entry := do
  let payload ← s.iccid.nth? i
  let iccid ← Luhn.append? payload
  let imsi ← s.imsi.nth? i
  let msisdn ← s.msisdn.nth? i
  return ⟨iccid, imsi, msisdn⟩

structure Cursor where
  sequences : Sequences
  position : Nat
  deriving DecidableEq, Repr

namespace Cursor

def remaining (c : Cursor) : Nat := c.sequences.length - c.position

/-- The least and the greatest number of subscribers that can be left; both are exact. -/
def sizeHint (c : Cursor) : Nat × Option Nat := (c.remaining, some c.remaining)

def advance (c : Cursor) (n : Nat) : Cursor :=
  { c with position := c.position + min n c.remaining }

def next? (c : Cursor) : Option (Entry × Cursor) :=
  (c.sequences.nth? c.position).map fun e => (e, { c with position := c.position + 1 })

theorem remaining_lt_of_next? {c next : Cursor} {e : Entry} (h : c.next? = some (e, next)) :
    next.remaining < c.remaining := by
  unfold next? at h
  obtain ⟨e', he, hnext⟩ := Option.map_eq_some_iff.1 h
  unfold Sequences.nth? at he
  obtain ⟨payload, hpayload, -⟩ := Option.bind_eq_some_iff.1 he
  have hlt : c.position < c.sequences.iccid.length := by
    unfold Range.nth? at hpayload
    split at hpayload
    · assumption
    · cases hpayload
  injection hnext with _ hnext
  rw [← hnext]
  show c.sequences.iccid.length - (c.position + 1) < c.sequences.iccid.length - c.position
  omega

/-- The subscriber behind the next `n`; past the end, the cursor stays at the end. -/
def nth (c : Cursor) (n : Nat) : Option Entry × Cursor :=
  (c.sequences.nth? (c.position + n), c.advance (n + 1))

/-- The next subscribers, `n` at most. -/
def take (c : Cursor) (n : Nat) : List Entry × Cursor :=
  ((List.range' c.position (min n c.remaining)).filterMap c.sequences.nth?, c.advance n)

def last? (c : Cursor) : Option Entry :=
  if c.remaining = 0 then none else c.sequences.nth? (c.sequences.length - 1)

end Cursor

namespace Descriptor

def cursor (b : Descriptor) : Cursor := ⟨b.sequences, 0⟩

def entries (b : Descriptor) : List Entry :=
  (List.range b.quantity).filterMap b.sequences.nth?

end Descriptor

end Provisioning.Batch
