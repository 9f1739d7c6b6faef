import Mathlib.Data.List.Basic
import Provisioning.Batch.Entries
import Provisioning.Proofs.Batch.Acceptance
/-!
# A batch from its descriptor

* `Cursor.call`, `Cursor.after`, `Cursor.answer` : a cursor that is asked again and again;
* `Sequences.subscriber` : the subscriber at a place of three ranges; `nth?_eq_ite` is where there
  is one;
* `Cursor.Reaches` : what holds of a cursor at every moment; `Reaches.call` is one call and
  `reaches_after` any number of them;
* `Descriptor.Regenerates` : the subscriber at a place as the shown fields of a descriptor give it;
* `regenerates_iff` : it is the subscriber of the ranges;
* `answers_regenerate` : an accepted batch, from its descriptor's shown fields alone.
-/

namespace Provisioning.Batch
open Decimal

/-! ## A cursor that is asked again and again -/

namespace Cursor

/-- What a cursor answers, and the cursor that is left; at the end it stays where it is. -/
def call (c : Cursor) : Option Entry × Cursor :=
  match c.next? with
  | some (e, c) => (some e, c)
  | none => (none, c)

def after (c : Cursor) : Nat → Cursor
  | 0 => c
  | n + 1 => (c.after n).call.2

/-- The answer to the call that follows `n` calls. -/
def answer (c : Cursor) (n : Nat) : Option Entry := (c.after n).call.1

end Cursor

/-! ## Subscribers of three ranges -/

namespace Sequences

def subscriber (s : Sequences) (i : Nat) : Entry where
  iccid := String.ofList (Luhn.completed (padded s.iccid.width (s.iccid.number i)))
  imsi := String.ofList (padded s.imsi.width (s.imsi.number i))
  msisdn := String.ofList (padded s.msisdn.width (s.msisdn.number i))

theorem nth?_of_lt {s : Sequences} {q i : Nat} (ha : s.Agree q) (hi : i < q) :
    s.nth? i = some (s.subscriber i) := by
  obtain ⟨h1, h2, h3⟩ := ha
  have hin : i < s.msisdn.length := h3 ▸ hi
  have him : i < s.imsi.length := h2 ▸ hin
  have hii : i < s.iccid.length := h1 ▸ him
  have happ : Luhn.append? (String.ofList (padded s.iccid.width (s.iccid.number i))) =
      some (s.subscriber i).iccid := Luhn.append?_ofList (padded_ne_nil _ _) (allDigits_padded _ _)
  rw [nth?, Range.nth?_of_lt hii, Range.nth?_of_lt him, Range.nth?_of_lt hin]
  simp only [Option.bind_eq_bind, Option.bind_some, happ]
  rfl

theorem nth?_of_le {s : Sequences} {q i : Nat} (ha : s.Agree q) (hi : q ≤ i) :
    s.nth? i = none := by
  obtain ⟨h1, h2, h3⟩ := ha
  rw [nth?, Range.nth?_of_le (by omega)]
  rfl

theorem nth?_eq_ite {s : Sequences} {q : Nat} (ha : s.Agree q) (i : Nat) :
    s.nth? i = if i < q then some (s.subscriber i) else none := by
  split
  · rename_i hi
    exact nth?_of_lt ha hi
  · rename_i hi
    exact nth?_of_le ha (Nat.le_of_not_lt hi)

theorem nth?_eq_getElem? {s : Sequences} {q : Nat} (ha : s.Agree q) (i : Nat) :
    s.nth? i = ((List.range q).map s.subscriber)[i]? := by
  rw [nth?_eq_ite ha, List.getElem?_map]
  split
  · rename_i hi
    rw [List.getElem?_range hi, Option.map_some]
  · rename_i hi
    rw [List.getElem?_eq_none (by simpa using hi), Option.map_none]

theorem filterMap_nth? {s : Sequences} {q : Nat} (ha : s.Agree q) :
    (List.range q).filterMap s.nth? = (List.range q).map s.subscriber := by
  refine List.filterMap_eq_map_iff_forall_eq_some.mpr fun i hi => ?_
  exact nth?_of_lt ha (List.mem_range.mp hi)

end Sequences

namespace Cursor

/-- The cursor stands in the ranges `s` behind `n` calls, and not past the `q` subscribers. -/
structure Reaches (s : Sequences) (q n : Nat) (c : Cursor) : Prop where
  sequences : c.sequences = s
  position : c.position = min n q

theorem Reaches.call {s : Sequences} {q n : Nat} {c : Cursor} (ha : s.Agree q)
    (h : c.Reaches s q n) :
    c.call.1 = (if n < q then some (s.subscriber n) else none) ∧ c.call.2.Reaches s q (n + 1) := by
  have hentry := Sequences.nth?_eq_ite ha (min n q)
  rw [← h.sequences, ← h.position] at hentry
  by_cases hn : n < q
  · have hpos : c.position = n := h.position.trans (Nat.min_eq_left (Nat.le_of_lt hn))
    rw [hpos, if_pos hn, h.sequences] at hentry
    have hcall : c.call = (some (s.subscriber n), { c with position := c.position + 1 }) := by
      rw [Cursor.call, next?, h.sequences, hpos, hentry]
      rfl
    rw [hcall, if_pos hn]
    refine ⟨rfl, h.sequences, ?_⟩
    rw [Nat.min_eq_left hn]
    exact congrArg (· + 1) hpos
  · have hpos : c.position = q := h.position.trans (Nat.min_eq_right (Nat.le_of_not_lt hn))
    rw [hpos, if_neg (Nat.lt_irrefl q), h.sequences] at hentry
    have hcall : c.call = (none, c) := by
      rw [Cursor.call, next?, h.sequences, hpos, hentry]
      rfl
    rw [hcall, if_neg hn]
    refine ⟨rfl, h.sequences, ?_⟩
    rw [hpos, Nat.min_eq_right (Nat.le_succ_of_le (Nat.le_of_not_lt hn))]

theorem reaches_after {s : Sequences} {q : Nat} (ha : s.Agree q) (n : Nat) :
    (after ⟨s, 0⟩ n).Reaches s q n := by
  induction n with
  | zero => exact ⟨rfl, (Nat.zero_min q).symm⟩
  | succ n ih => exact (ih.call ha).2

theorem answer_eq_ite {s : Sequences} {q : Nat} (ha : s.Agree q) (n : Nat) :
    answer ⟨s, 0⟩ n = if n < q then some (s.subscriber n) else none :=
  ((reaches_after ha n).call ha).1

end Cursor

/-! ## The shown fields -/

/-- `x` is the number that `i` steps lead to from `first`, over the integers. -/
def StepsTo (first : Nat) (increment : Increment) (i x : Nat) : Prop :=
  (x : Int) = first + i * increment.step

theorem StepsTo.unique {first i x y : Nat} {increment : Increment}
    (h : StepsTo first increment i x) (h' : StepsTo first increment i y) : x = y :=
  Int.ofNat_inj.mp (h.trans h'.symm)

/-- The subscriber at a place, as the first identifiers and the increments tell. Each number fits
64 bits, and but for the MSISDN it fits the digits that it is written with. -/
structure Descriptor.Regenerates (b : Descriptor) (i : Nat) (e : Entry) : Prop where
  iccid : ∃ x p c, StepsTo (value (b.firstIccid.toList.take 18)) b.iccidIncrement i x ∧
    x < UInt64.size ∧ p = padded 18 x ∧ p.length = 18 ∧ Luhn.IsCheckDigit p c ∧
    e.iccid.toList = p ++ [c]
  imsi : ∃ x, StepsTo (value b.firstImsi.toList) b.imsiIncrement i x ∧ x < UInt64.size ∧
    e.imsi.toList = padded 15 x ∧ e.imsi.toList.length = 15
  msisdn : ∃ x, StepsTo (value b.firstMsisdn.toList) b.msisdnIncrement i x ∧ x < UInt64.size ∧
    e.msisdn.toList = padded b.firstMsisdn.toList.length x

namespace Declaration

theorem ranges_lt {d : Declaration} (h : ∀ c ∈ d.checks, c.Holds) :
    (d.ranges.iccid.first < 10 ^ 18 ∧ d.ranges.iccid.last < 10 ^ 18) ∧
      (d.ranges.imsi.first < 10 ^ 15 ∧ d.ranges.imsi.last < 10 ^ 15) ∧
      d.ranges.msisdn.first < 10 ^ 15 ∧ d.ranges.msisdn.last < 10 ^ 15 := by
  obtain ⟨⟨hi, hi'⟩, ⟨hm, hm'⟩, hn, hn'⟩ := forms_of_checks h
  have imsi_lt : ∀ {s : String}, IsImsi s → value s.toList < 10 ^ 15 := fun hs =>
    hs.2 ▸ value_lt hs.1
  have msisdn_lt : ∀ {s : String}, IsMsisdn s → value s.toList < 10 ^ 15 := fun hs =>
    Nat.lt_of_lt_of_le (value_lt hs.1) (Nat.pow_le_pow_right (by decide) hs.2.2)
  exact ⟨⟨Range.iccidNumber_lt hi, Range.iccidNumber_lt hi'⟩, ⟨imsi_lt hm, imsi_lt hm'⟩,
    msisdn_lt hn, msisdn_lt hn'⟩

theorem regenerates_subscriber {d : Declaration} {q i : Nat} (h : ∀ c ∈ d.checks, c.Holds)
    (ha : d.ranges.Agree q) (hi : i < q) :
    (d.accepted q).Regenerates i (d.ranges.subscriber i) := by
  obtain ⟨⟨hif, hil⟩, ⟨hmf, hml⟩, hnf, hnl⟩ := ranges_lt h
  obtain ⟨h1, h2, h3⟩ := ha
  have hin : i < d.ranges.msisdn.length := h3 ▸ hi
  have him : i < d.ranges.imsi.length := h2 ▸ hin
  have hii : i < d.ranges.iccid.length := h1 ▸ him
  have hi18 := Range.number_lt hii hif hil
  have hm15 := Range.number_lt him hmf hml
  have hn15 := Range.number_lt hin hnf hnl
  have h64 : 10 ^ 18 < UInt64.size ∧ 10 ^ 15 < UInt64.size := by decide
  constructor
  · refine ⟨_, _, _, Range.cast_number hii, Nat.lt_trans hi18 h64.1, rfl,
      length_padded (by decide) hi18, Luhn.isCheckDigit_completed (allDigits_padded _ _), ?_⟩
    rw [Sequences.subscriber, String.toList_ofList]
    rfl
  · refine ⟨_, Range.cast_number him, Nat.lt_trans hm15 h64.2, ?_, ?_⟩
    · rw [Sequences.subscriber, String.toList_ofList]
      rfl
    · rw [Sequences.subscriber, String.toList_ofList]
      have h15 : 0 < 15 := by decide
      exact length_padded h15 hm15
  · refine ⟨_, Range.cast_number hin, Nat.lt_trans hn15 h64.2, ?_⟩
    rw [Sequences.subscriber, String.toList_ofList]
    rfl

end Declaration

/-- The shown fields leave no choice. -/
theorem Descriptor.Regenerates.unique {b : Descriptor} {i : Nat} {e e' : Entry}
    (h : b.Regenerates i e) (h' : b.Regenerates i e') : e = e' := by
  obtain ⟨x, p, c, hx, -, rfl, -, hc, he⟩ := h.iccid
  obtain ⟨x', p', c', hx', -, rfl, -, hc', he'⟩ := h'.iccid
  obtain ⟨y, hy, -, hm, -⟩ := h.imsi
  obtain ⟨y', hy', -, hm', -⟩ := h'.imsi
  obtain ⟨z, hz, -, hn⟩ := h.msisdn
  obtain ⟨z', hz', -, hn'⟩ := h'.msisdn
  obtain rfl := hx.unique hx'
  obtain rfl := hy.unique hy'
  obtain rfl := hz.unique hz'
  obtain rfl := hc.unique (allDigits_padded _ _) hc'
  cases e
  cases e'
  congr
  · exact String.toList_inj.mp (he.trans he'.symm)
  · exact String.toList_inj.mp (hm.trans hm'.symm)
  · exact String.toList_inj.mp (hn.trans hn'.symm)

theorem Declaration.regenerates_iff {d : Declaration} {q i : Nat} {e : Entry}
    (h : ∀ c ∈ d.checks, c.Holds) (ha : d.ranges.Agree q) (hi : i < q) :
    (d.accepted q).Regenerates i e ↔ e = d.ranges.subscriber i := by
  constructor
  · intro he
    exact he.unique (regenerates_subscriber h ha hi)
  · rintro rfl
    exact regenerates_subscriber h ha hi

/-- The subscribers of an accepted batch: as many as its quantity, each the one that the shown
fields regenerate, then none on any further call. -/
theorem Descriptor.answers_regenerate {d : Declaration} {b : Descriptor}
    (h : d.descriptor = .ok b) :
    b.quantity < UInt64.size ∧ b.entries.length = b.quantity ∧
      (∀ i e, b.entries[i]? = some e ↔ i < b.quantity ∧ b.Regenerates i e) ∧
      ∀ n, b.cursor.answer n = b.entries[n]? := by
  obtain ⟨hall, q, hq, hspan, rfl⟩ := Declaration.descriptor_eq_ok_iff.mp h
  have ha := (d.agree_iff_spans q).mpr hspan
  have hentries : (d.accepted q).entries = (List.range q).map d.ranges.subscriber :=
    Sequences.filterMap_nth? ha
  have hget : ∀ i, (d.accepted q).entries[i]? =
      if i < q then some (d.ranges.subscriber i) else none := by
    intro i
    rw [hentries, List.getElem?_map]
    split
    · rename_i hi
      rw [List.getElem?_range hi, Option.map_some]
    · rename_i hi
      rw [List.getElem?_eq_none (by simpa using hi), Option.map_none]
  refine ⟨?_, ?_, fun i e => ?_, fun n => ?_⟩
  · obtain ⟨-, -, -, -, -, -, -, -, hlt⟩ := hq
    exact hlt
  · rw [hentries, List.length_map, List.length_range]
    rfl
  · rw [hget]
    constructor
    · intro he
      split at he
      · rename_i hi
        injection he with he
        exact ⟨hi, (Declaration.regenerates_iff hall ha hi).mpr he.symm⟩
      · cases he
    · rintro ⟨hi, he⟩
      rw [if_pos (show i < q from hi), (Declaration.regenerates_iff hall ha hi).mp he]
  · rw [hget]
    exact Cursor.answer_eq_ite ha n

/-- The last of ten subscribers, and the end behind it. -/
theorem Descriptor.sample_answers :
    Declaration.sample.descriptor = .ok (Declaration.sample.accepted 10) ∧
      (Declaration.sample.accepted 10).Regenerates 9
        ⟨"8901000000000000092", "242017100000237", "0000000000"⟩ ∧
      (Declaration.sample.accepted 10).cursor.answer 10 = none := by
  obtain ⟨-, hlen, hentries, hanswer⟩ :=
    Descriptor.answers_regenerate Declaration.sample_accepted
  refine ⟨Declaration.sample_accepted, ((hentries 9 _).mp ?_).2, ?_⟩
  · decide +kernel
  · rw [hanswer, List.getElem?_eq_none]
    rw [hlen]
    decide

end Provisioning.Batch
