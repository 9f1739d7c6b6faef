import Mathlib.Data.List.Forall2
import Mathlib.Data.Nat.SuccPred
import Mathlib.Logic.Function.Iterate
import Provisioning.Proofs.Batch.Partition
/-!
# A cursor stands for the subscribers that are left

A cursor can be asked for the next subscriber, for one further on, for a few at once, for how many
are left or for the last one, and it can be copied. Whatever is asked in whatever order, it answers
as the list of the subscribers that it has left.

* `Iteration α` : what an iterator of type `α` can be asked;
* `Iteration.perform`, `Iteration.run` : one operation, and a list of them, on a stack of iterators;
* `Iteration.Simulates` : iterators that answer as others do; `Simulates.perform` is one operation
  on a stack and `Simulates.run` any number;
* `Cursor.stepwise` : everything is done one subscriber at a time, by `Cursor.call`;
* `Cursor.direct` : the cursor moves over many subscribers at once;
* `Iteration.listed` : the same of a list;
* `Cursor.StandsFor` : the list that a cursor stands for; both ways to ask it keep to this list
  (`Cursor.stepwise_simulates`, `Cursor.direct_simulates`);
* `Descriptor.cursors_standFor` : the cursors of an accepted batch, after any operations.
-/

namespace Provisioning.Batch

/-! ## Iterators on a stack -/

/-- What an iterator over subscribers can be asked. What moves it gives the moved one back. -/
structure Iteration (α : Type) where
  next : α → Option Entry × α
  /-- The subscriber behind the next `n`. -/
  nth : α → Nat → Option Entry × α
  /-- The next subscribers, `n` at most. -/
  take : α → Nat → List Entry × α
  /-- The least and, if it is known, the greatest number of subscribers that can be left. -/
  sizeHint : α → Nat × Option Nat
  count : α → Nat
  last : α → Option Entry

namespace Iteration

inductive Operation
  | next
  | nth (n : Nat)
  | take (n : Nat)
  | sizeHint
  | count
  | last
  /-- Puts a copy of the top on the stack. -/
  | clone
  | drop
  deriving DecidableEq, Repr

inductive Answer
  | entry (e : Option Entry)
  | entries (es : List Entry)
  | bounds (low : Nat) (high : Option Nat)
  | count (n : Nat)
  deriving DecidableEq, Repr

/-- One iterator is always on top. -/
structure Stack (α : Type) where
  top : α
  below : List α
  deriving DecidableEq, Repr

def Stack.toList {α : Type} (s : Stack α) : List α := s.top :: s.below

theorem Stack.toList_inj {α : Type} {s t : Stack α} : s.toList = t.toList ↔ s = t := by
  cases s
  cases t
  simp [toList]

variable {α β : Type}

/-- One operation on the iterator on top. A copy and a drop answer with the size of the stack, and
an emptied stack gets a fresh iterator. -/
def perform (m : Iteration α) (fresh : α) (s : Stack α) : Operation → Answer × Stack α
  | .next => (.entry (m.next s.top).1, { s with top := (m.next s.top).2 })
  | .nth n => (.entry (m.nth s.top n).1, { s with top := (m.nth s.top n).2 })
  | .take n => (.entries (m.take s.top n).1, { s with top := (m.take s.top n).2 })
  | .sizeHint => (.bounds (m.sizeHint s.top).1 (m.sizeHint s.top).2, s)
  | .count => (.count (m.count s.top), s)
  | .last => (.entry (m.last s.top), s)
  | .clone => (.count (s.below.length + 2), ⟨s.top, s.top :: s.below⟩)
  | .drop =>
    match s.below with
    | [] => (.count 1, ⟨fresh, []⟩)
    | a :: below => (.count (below.length + 1), ⟨a, below⟩)

def runOn (m : Iteration α) (fresh : α) (s : Stack α) : List Operation → List Answer × Stack α
  | [] => ([], s)
  | op :: ops =>
    let (answer, s) := m.perform fresh s op
    let (answers, s) := m.runOn fresh s ops
    (answer :: answers, s)

/-- Operations on a stack that begins with one iterator: the answers, and the stack that is left. -/
def run (m : Iteration α) (fresh : α) (ops : List Operation) : List Answer × Stack α :=
  m.runOn fresh ⟨fresh, []⟩ ops

/-! ### Simulation -/

/-- Related iterators answer alike, and stay related. -/
structure Simulates (m : Iteration α) (m' : Iteration β) (R : α → β → Prop) : Prop where
  next : ∀ {a b}, R a b → (m.next a).1 = (m'.next b).1 ∧ R (m.next a).2 (m'.next b).2
  nth : ∀ {a b} (n : Nat), R a b →
    (m.nth a n).1 = (m'.nth b n).1 ∧ R (m.nth a n).2 (m'.nth b n).2
  take : ∀ {a b} (n : Nat), R a b →
    (m.take a n).1 = (m'.take b n).1 ∧ R (m.take a n).2 (m'.take b n).2
  sizeHint : ∀ {a b}, R a b → m.sizeHint a = m'.sizeHint b
  count : ∀ {a b}, R a b → m.count a = m'.count b
  last : ∀ {a b}, R a b → m.last a = m'.last b

variable {m : Iteration α} {m' : Iteration β} {R : α → β → Prop} {a : α} {b : β}
  {s : Stack α} {t : Stack β}

theorem Simulates.perform (h : m.Simulates m' R) (hfresh : R a b)
    (hst : List.Forall₂ R s.toList t.toList) (op : Operation) :
    (m.perform a s op).1 = (m'.perform b t op).1 ∧
      List.Forall₂ R (m.perform a s op).2.toList (m'.perform b t op).2.toList := by
  obtain ⟨htop, hbelow⟩ := List.forall₂_cons.mp hst
  cases op with
  | next =>
    obtain ⟨hanswer, hmoved⟩ := h.next htop
    exact ⟨congrArg Answer.entry hanswer, .cons hmoved hbelow⟩
  | nth n =>
    obtain ⟨hanswer, hmoved⟩ := h.nth n htop
    exact ⟨congrArg Answer.entry hanswer, .cons hmoved hbelow⟩
  | take n =>
    obtain ⟨hanswer, hmoved⟩ := h.take n htop
    exact ⟨congrArg Answer.entries hanswer, .cons hmoved hbelow⟩
  | sizeHint =>
    have hbounds := h.sizeHint htop
    refine ⟨?_, hst⟩
    rw [Iteration.perform, Iteration.perform, hbounds]
  | count => exact ⟨congrArg Answer.count (h.count htop), hst⟩
  | last => exact ⟨congrArg Answer.entry (h.last htop), hst⟩
  | clone =>
    refine ⟨?_, .cons htop hst⟩
    rw [Iteration.perform, Iteration.perform, hbelow.length_eq]
  | drop =>
    unfold Iteration.perform
    obtain ⟨top, below⟩ := s
    obtain ⟨top', below'⟩ := t
    cases hbelow with
    | nil => exact ⟨rfl, .cons hfresh .nil⟩
    | cons hnext hrest =>
      refine ⟨?_, .cons hnext hrest⟩
      dsimp only
      rw [hrest.length_eq]

theorem Simulates.runOn (h : m.Simulates m' R) (hfresh : R a b)
    (hst : List.Forall₂ R s.toList t.toList) (ops : List Operation) :
    (m.runOn a s ops).1 = (m'.runOn b t ops).1 ∧
      List.Forall₂ R (m.runOn a s ops).2.toList (m'.runOn b t ops).2.toList := by
  induction ops generalizing s t with
  | nil => exact ⟨rfl, hst⟩
  | cons op ops ih =>
    obtain ⟨hanswer, hmoved⟩ := h.perform hfresh hst op
    obtain ⟨hanswers, hleft⟩ := ih hmoved
    exact ⟨congrArg₂ List.cons hanswer hanswers, hleft⟩

theorem Simulates.run (h : m.Simulates m' R) (hfresh : R a b) (ops : List Operation) :
    (m.run a ops).1 = (m'.run b ops).1 ∧
      List.Forall₂ R (m.run a ops).2.toList (m'.run b ops).2.toList :=
  h.runOn hfresh (.cons hfresh .nil) ops

/-- Two ways to ask iterators that keep to the same others, each of which stands for one iterator
only, make no difference. -/
theorem Simulates.run_eq {m₁ m₂ : Iteration α} (h₁ : m₁.Simulates m' R) (h₂ : m₂.Simulates m' R)
    (hR : Relator.LeftUnique R) (hfresh : R a b) (ops : List Operation) :
    m₁.run a ops = m₂.run a ops := by
  obtain ⟨hanswers₁, hstack₁⟩ := h₁.run hfresh ops
  obtain ⟨hanswers₂, hstack₂⟩ := h₂.run hfresh ops
  apply Prod.ext
  · exact hanswers₁.trans hanswers₂.symm
  · exact Stack.toList_inj.mp (List.left_unique_forall₂' hR hstack₁ hstack₂)

/-! ## Lists -/

/-- A list gives its subscribers away from the front. -/
def listed : Iteration (List Entry) where
  next es := (es.head?, es.tail)
  nth es n := (es[n]?, es.drop (n + 1))
  take es n := (es.take n, es.drop n)
  sizeHint es := (es.length, some es.length)
  count es := es.length
  last es := es.getLast?

end Iteration

/-! ## Cursors -/

namespace Cursor

/-- Asks for `n` subscribers, and stops where there is none; whether there were so many. -/
def skip (c : Cursor) : Nat → Bool × Cursor
  | 0 => (true, c)
  | n + 1 =>
    match c.call with
    | (some _, c) => c.skip n
    | (none, c) => (false, c)

/-- Behind a skip that came to the end, nothing more is asked. -/
def nthCall (c : Cursor) (n : Nat) : Option Entry × Cursor :=
  match c.skip n with
  | (true, c) => c.call
  | (false, c) => (none, c)

/-- The answers to `n` calls, up to the first that is none. -/
def calls (c : Cursor) : Nat → List Entry × Cursor
  | 0 => ([], c)
  | n + 1 =>
    match c.call with
    | (some e, c) => (e :: (c.calls n).1, (c.calls n).2)
    | (none, c) => ([], c)

def foldCalls {α : Type} (f : α → Entry → α) (a : α) (c : Cursor) : α :=
  match h : c.next? with
  | none => a
  | some (e, next) =>
    have := remaining_lt_of_next? h
    foldCalls f (f a e) next
termination_by c.remaining
decreasing_by exact this

/-- Asked for one subscriber at a time. -/
def stepwise : Iteration Cursor where
  next := call
  nth := nthCall
  take := calls
  sizeHint := sizeHint
  count := foldCalls (fun n _ => n + 1) 0
  last := foldCalls (fun _ e => some e) none

/-- Moved over many subscribers at once. -/
def direct : Iteration Cursor where
  next := call
  nth := nth
  take := take
  sizeHint := sizeHint
  count := remaining
  last := last?

end Cursor

/-- The ranges give these subscribers, each at its place. -/
structure Sequences.Gives (s : Sequences) (es : List Entry) : Prop where
  length : s.length = es.length
  nth? : ∀ i, s.nth? i = es[i]?

theorem Sequences.Agree.gives {s : Sequences} {q : Nat} (ha : s.Agree q) :
    s.Gives ((List.range q).map s.subscriber) where
  length := by
    rw [List.length_map, List.length_range]
    exact ha.length_eq.1
  nth? := Sequences.nth?_eq_getElem? ha

namespace Cursor

/-- Of the subscribers `es`, those behind the position are left, and the position is not past the
end. -/
structure StandsFor (s : Sequences) (es : List Entry) (c : Cursor) (rest : List Entry) : Prop where
  sequences : c.sequences = s
  position_le : c.position ≤ es.length
  left : es.drop c.position = rest

variable {s : Sequences} {es rest : List Entry} {c c' : Cursor} {e : Entry}

theorem StandsFor.length_rest (h : c.StandsFor s es rest) :
    rest.length = es.length - c.position := by
  rw [← h.left, List.length_drop]

theorem StandsFor.remaining (h : c.StandsFor s es rest) (hs : s.Gives es) :
    c.remaining = rest.length := by
  rw [h.length_rest, Cursor.remaining, h.sequences, hs.length]

theorem StandsFor.sizeHint (h : c.StandsFor s es rest) (hs : s.Gives es) :
    c.sizeHint = (rest.length, some rest.length) := by
  rw [Cursor.sizeHint, h.remaining hs]

theorem StandsFor.unique (h : c.StandsFor s es rest) (h' : c'.StandsFor s es rest) : c = c' := by
  have hlen := h.length_rest
  have hlen' := h'.length_rest
  have hle := h.position_le
  have hle' := h'.position_le
  cases c
  cases c'
  congr 1
  · exact h.sequences.trans h'.sequences.symm
  · dsimp only at *
    omega

/-! ### One call -/

theorem StandsFor.nth?_position (h : c.StandsFor s es rest) (hs : s.Gives es) (n : Nat) :
    c.sequences.nth? (c.position + n) = rest[n]? := by
  rw [h.sequences, hs.nth?, ← h.left, List.getElem?_drop]

theorem StandsFor.nth?_head (h : c.StandsFor s es rest) (hs : s.Gives es) :
    c.sequences.nth? c.position = rest.head? := by
  rw [List.head?_eq_getElem?, ← h.nth?_position hs, Nat.add_zero]

theorem StandsFor.next?_nil (h : c.StandsFor s es []) (hs : s.Gives es) : c.next? = none := by
  rw [next?, h.nth?_head hs]
  rfl

theorem StandsFor.next?_cons (h : c.StandsFor s es (e :: rest)) (hs : s.Gives es) :
    c.next? = some (e, { c with position := c.position + 1 }) := by
  rw [next?, h.nth?_head hs]
  rfl

theorem StandsFor.call_nil (h : c.StandsFor s es []) (hs : s.Gives es) : c.call = (none, c) := by
  rw [call, h.next?_nil hs]

theorem StandsFor.call_cons (h : c.StandsFor s es (e :: rest)) (hs : s.Gives es) :
    c.call = (some e, { c with position := c.position + 1 }) := by
  rw [call, h.next?_cons hs]

theorem StandsFor.next (h : c.StandsFor s es (e :: rest)) :
    { c with position := c.position + 1 }.StandsFor s es rest where
  sequences := h.sequences
  position_le := by
    have hlen := h.length_rest
    rw [List.length_cons] at hlen
    show c.position + 1 ≤ es.length
    omega
  left := by
    rw [← List.tail_drop, h.left, List.tail_cons]

theorem StandsFor.call (h : c.StandsFor s es rest) (hs : s.Gives es) :
    c.call.1 = rest.head? ∧ c.call.2.StandsFor s es rest.tail := by
  cases rest with
  | nil =>
    rw [h.call_nil hs]
    exact ⟨rfl, h⟩
  | cons e rest =>
    rw [h.call_cons hs]
    exact ⟨rfl, h.next⟩

/-! ### One subscriber at a time -/

theorem StandsFor.skip (h : c.StandsFor s es rest) (hs : s.Gives es) (n : Nat) :
    (c.skip n).1 = decide (n ≤ rest.length) ∧ (c.skip n).2.StandsFor s es (rest.drop n) := by
  induction n generalizing c rest with
  | zero => exact ⟨by simp [Cursor.skip], h⟩
  | succ n ih =>
    cases rest with
    | nil =>
      rw [Cursor.skip, h.call_nil hs]
      exact ⟨by simp, h⟩
    | cons e rest =>
      rw [Cursor.skip, h.call_cons hs]
      obtain ⟨hreached, hleft⟩ := ih h.next
      exact ⟨by simpa using hreached, hleft⟩

theorem StandsFor.nthCall (h : c.StandsFor s es rest) (hs : s.Gives es) (n : Nat) :
    (c.nthCall n).1 = rest[n]? ∧ (c.nthCall n).2.StandsFor s es (rest.drop (n + 1)) := by
  obtain ⟨hreached, hleft⟩ := h.skip hs n
  rw [Cursor.nthCall]
  cases hskip : c.skip n with
  | mk reached skipped =>
    rw [hskip] at hreached hleft
    dsimp only at hreached hleft ⊢
    -- a skip of exactly all that is left still counts as one, and then the call finds nothing
    by_cases hn : n ≤ rest.length
    · obtain rfl : reached = true := hreached.trans (decide_eq_true hn)
      have hcall := hleft.call hs
      rwa [List.head?_drop, List.tail_drop] at hcall
    · obtain rfl : reached = false := hreached.trans (decide_eq_false hn)
      have hshort : rest.length ≤ n := by omega
      rw [List.drop_of_length_le hshort] at hleft
      rw [List.getElem?_eq_none hshort, List.drop_of_length_le (by omega)]
      exact ⟨rfl, hleft⟩

theorem StandsFor.calls (h : c.StandsFor s es rest) (hs : s.Gives es) (n : Nat) :
    (c.calls n).1 = rest.take n ∧ (c.calls n).2.StandsFor s es (rest.drop n) := by
  induction n generalizing c rest with
  | zero => exact ⟨rfl, h⟩
  | succ n ih =>
    cases rest with
    | nil =>
      rw [Cursor.calls, h.call_nil hs]
      exact ⟨rfl, h⟩
    | cons e rest =>
      rw [Cursor.calls, h.call_cons hs]
      obtain ⟨hanswers, hleft⟩ := ih h.next
      exact ⟨congrArg (e :: ·) hanswers, hleft⟩

theorem foldCalls_of_none {α : Type} (h : c.next? = none) (f : α → Entry → α) (a : α) :
    c.foldCalls f a = a := by
  unfold foldCalls
  split
  · rfl
  · rename_i hnext
    rw [h] at hnext
    cases hnext

theorem foldCalls_of_next {α : Type} (h : c.next? = some (e, c')) (f : α → Entry → α) (a : α) :
    c.foldCalls f a = c'.foldCalls f (f a e) := by
  rw [foldCalls]
  split
  · rename_i hnext
    rw [h] at hnext
    cases hnext
  · rename_i hnext
    rw [h] at hnext
    cases hnext
    rfl

theorem StandsFor.foldCalls {α : Type} (h : c.StandsFor s es rest) (hs : s.Gives es)
    (f : α → Entry → α) (a : α) : c.foldCalls f a = rest.foldl f a := by
  induction rest generalizing c a with
  | nil => exact foldCalls_of_none (h.next?_nil hs) f a
  | cons e rest ih =>
    rw [foldCalls_of_next (h.next?_cons hs), ih h.next]
    rfl

theorem foldl_last (es : List Entry) (o : Option Entry) :
    es.foldl (fun _ e => some e) o = es.getLast?.or o := by
  induction es generalizing o with
  | nil => rfl
  | cons e es ih =>
    rw [List.foldl_cons, ih, List.getLast?_cons]
    cases es.getLast? <;> rfl

theorem stepwise_simulates (hs : s.Gives es) :
    stepwise.Simulates Iteration.listed (StandsFor s es) where
  next h := h.call hs
  nth n h := h.nthCall hs n
  take n h := h.calls hs n
  sizeHint h := h.sizeHint hs
  count h := by
    show Cursor.foldCalls _ 0 _ = _
    rw [h.foldCalls hs, List.foldl_const Nat.succ, Nat.succ_iterate, Nat.zero_add]
    rfl
  last h := by
    show Cursor.foldCalls _ none _ = _
    rw [h.foldCalls hs, foldl_last, Option.or_none]
    rfl

/-! ### Many subscribers at once -/

theorem StandsFor.advance (h : c.StandsFor s es rest) (hs : s.Gives es) (n : Nat) :
    (c.advance n).StandsFor s es (rest.drop n) where
  sequences := h.sequences
  position_le := by
    have hle := h.position_le
    have hlen := h.length_rest
    show c.position + min n c.remaining ≤ es.length
    rw [h.remaining hs]
    omega
  left := by
    show es.drop (c.position + min n c.remaining) = rest.drop n
    rw [← List.drop_drop, h.left, h.remaining hs]
    rcases Nat.le_total n rest.length with hn | hn
    · rw [Nat.min_eq_left hn]
    · rw [Nat.min_eq_right hn, List.drop_length, List.drop_of_length_le hn]

theorem filterMap_range'_getElem? (es : List Entry) {i n : Nat} (h : i + n ≤ es.length) :
    (List.range' i n).filterMap (es[·]?) = (es.drop i).take n := by
  induction n generalizing i with
  | zero => rfl
  | succ n ih =>
    have hi : i < es.length := by omega
    rw [List.range'_succ, List.filterMap_cons, List.getElem?_eq_getElem hi, ih (by omega),
      List.drop_eq_getElem_cons hi, List.take_succ_cons]

theorem StandsFor.take (h : c.StandsFor s es rest) (hs : s.Gives es) (n : Nat) :
    (c.take n).1 = rest.take n ∧ (c.take n).2.StandsFor s es (rest.drop n) := by
  have hle := h.position_le
  have hlen := h.length_rest
  refine ⟨?_, h.advance hs n⟩
  show (List.range' c.position (min n c.remaining)).filterMap c.sequences.nth? = rest.take n
  rw [h.sequences, funext hs.nth?, filterMap_range'_getElem? es (by rw [h.remaining hs]; omega),
    h.left, h.remaining hs, ← List.take_eq_take_min]

theorem StandsFor.last? (h : c.StandsFor s es rest) (hs : s.Gives es) :
    c.last? = rest.getLast? := by
  rw [Cursor.last?, h.remaining hs, h.sequences, hs.nth?, hs.length]
  cases rest with
  | nil => rfl
  | cons e rest =>
    have hlen := h.length_rest
    rw [List.length_cons] at hlen
    rw [if_neg (by simp), ← List.getLast?_eq_getElem?, ← h.left, List.getLast?_drop,
      if_neg (by omega)]

theorem direct_simulates (hs : s.Gives es) :
    direct.Simulates Iteration.listed (StandsFor s es) where
  next h := h.call hs
  nth n h := ⟨h.nth?_position hs n, h.advance hs (n + 1)⟩
  take n h := h.take hs n
  sizeHint h := h.sizeHint hs
  count h := h.remaining hs
  last h := h.last? hs

end Cursor

/-! ## Cursors of an accepted batch -/

/-- The cursors of an accepted batch, asked for anything in any order, copied and dropped: the
answers are those of the list of all subscribers, asked for the same, and each cursor on the stack
stands for what the list in its place has left. It makes no difference whether a cursor moves at
once or by one subscriber at a time, and at the end it stays where it is. -/
theorem Descriptor.cursors_standFor {d : Declaration} {b : Descriptor}
    (h : d.descriptor = .ok b) :
    b.entries.length = b.quantity ∧ b.quantity < UInt64.size ∧
      (∀ ops : List Iteration.Operation,
        Cursor.stepwise.run b.cursor ops = Cursor.direct.run b.cursor ops ∧
        (Cursor.direct.run b.cursor ops).1 = (Iteration.listed.run b.entries ops).1 ∧
        List.Forall₂ (Cursor.StandsFor b.sequences b.entries)
          (Cursor.direct.run b.cursor ops).2.toList
          (Iteration.listed.run b.entries ops).2.toList) ∧
      ∀ c : Cursor, c.StandsFor b.sequences b.entries [] → c.call = (none, c) := by
  obtain ⟨-, hlen⟩ := Declaration.lists_entries h
  obtain ⟨-, q, ⟨-, -, -, -, -, -, -, -, hlimit⟩, hspan, rfl⟩ :=
    Declaration.descriptor_eq_ok_iff.mp h
  have ha := (d.agree_iff_spans q).mpr hspan
  have hs : d.ranges.Gives (d.accepted q).entries := by
    rw [(Declaration.lists_accepted ha).entries]
    exact ha.gives
  have hfresh : (d.accepted q).cursor.StandsFor d.ranges (d.accepted q).entries
      (d.accepted q).entries := ⟨rfl, Nat.zero_le _, rfl⟩
  have hunique : Relator.LeftUnique (Cursor.StandsFor d.ranges (d.accepted q).entries) :=
    fun _ _ _ h h' => h.unique h'
  refine ⟨hlen, hlimit, fun ops => ⟨?_, ?_⟩, fun c hc => hc.call_nil hs⟩
  · exact (Cursor.stepwise_simulates hs).run_eq (Cursor.direct_simulates hs) hunique hfresh ops
  · exact (Cursor.direct_simulates hs).run hfresh ops

/-- Ten subscribers: a copy comes to the end, and the cursor below it still has nine. -/
theorem Descriptor.sample_cursors :
    Declaration.sample.descriptor = .ok (Declaration.sample.accepted 10) ∧
      (Cursor.stepwise.run (Declaration.sample.accepted 10).cursor
        [.next, .clone, .nth 7, .take 5, .next, .nth 3, .sizeHint, .drop, .count, .last]).1 =
      [.entry (some ⟨"8901000000000000001", "242017100000228", "0000000009"⟩), .count 2,
        .entry (some ⟨"8901000000000000084", "242017100000236", "0000000001"⟩),
        .entries [⟨"8901000000000000092", "242017100000237", "0000000000"⟩],
        .entry none, .entry none, .bounds 0 (some 0), .count 1, .count 9,
        .entry (some ⟨"8901000000000000092", "242017100000237", "0000000000"⟩)] := by
  obtain ⟨-, -, hruns, -⟩ := Descriptor.cursors_standFor Declaration.sample_accepted
  refine ⟨Declaration.sample_accepted, ?_⟩
  obtain ⟨hsame, hanswers, -⟩ :=
    hruns [.next, .clone, .nth 7, .take 5, .next, .nth 3, .sizeHint, .drop, .count, .last]
  rw [hsame, hanswers]
  decide +kernel

end Provisioning.Batch
