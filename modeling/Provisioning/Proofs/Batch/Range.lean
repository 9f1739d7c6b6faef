import Provisioning.Proofs.Batch.Field
/-!
# Ranges of identifiers

* `span` : how many whole numbers there are between two of them, both counted;
* `length_eq_span` : the length of a range;
* `parse_eq_ok_iff` : which ends a range is read from;
* `parse_of_allDigits`, `parseIccid_of_isIccid` : digits that are few enough are read as the range
  between their values;
* `number_cases` : the number at a place inside a range; `cast_number` : over the integers;
* `number_lt`, `number_between` : it stays below any bound on the two ends, and between them;
* `number_zero`, `number_last`, `number_inj` : the numbers begin and end with the ends of the range,
  and none comes twice;
* `nth?_of_lt`, `nth?_of_le` : the written identifiers, and that there are no others;
  `digits_of_nth?` : what they spell.
-/

namespace Provisioning.Batch
open Decimal

/-- The distance of two numbers over the integers, and one. -/
def span (first last : Nat) : Nat := ((last : Int) - first).natAbs + 1

def iccidNumber (s : String) : Nat := value (s.toList.take 18)

namespace Range

theorem length_eq_span (r : Range) : r.length = span r.first r.last := by
  unfold length span
  omega

theorem length_le {r : Range} {b : Nat} (hf : r.first < b) (hl : r.last < b) : r.length ≤ b := by
  unfold length
  omega

/-! ## Reading -/

theorem parseEnd_eq_ok_iff {which label raw : String} {n : Nat} :
    parseEnd which label raw = .ok n ↔ IsUnsigned raw.toList n ∧ n < countLimit := by
  rw [← unsigned?_eq_some_iff, parseEnd]
  cases unsigned? countLimit raw.toList with
  | none => simp
  | some m => simp

theorem parse_eq_ok_iff {label first last : String} {r : Range} :
    parse label first last = .ok r ↔
      (IsUnsigned first.toList r.first ∧ r.first < countLimit) ∧
        (IsUnsigned last.toList r.last ∧ r.last < countLimit) ∧
        r.length < countLimit ∧ r.width = first.utf8ByteSize := by
  constructor
  · intro h
    rw [parse] at h
    cases hfirst : parseEnd "first" label first with
    | error e =>
      rw [hfirst] at h
      cases h
    | ok a =>
      cases hlast : parseEnd "last" label last with
      | error e =>
        rw [hfirst, hlast] at h
        cases h
      | ok b =>
        rw [hfirst, hlast] at h
        change (if (Range.mk a b first.utf8ByteSize).length < countLimit then _ else _) = _ at h
        split at h
        · rename_i hlen
          cases h
          exact ⟨parseEnd_eq_ok_iff.mp hfirst, parseEnd_eq_ok_iff.mp hlast, hlen, rfl⟩
        · cases h
  · rintro ⟨hfirst, hlast, hlen, hwidth⟩
    rw [parse, parseEnd_eq_ok_iff.mpr hfirst, parseEnd_eq_ok_iff.mpr hlast, ← hwidth]
    exact if_pos hlen

theorem parse_of_lt {label first last : String} (hf : first.toList ≠ [])
    (hfd : AllDigits first.toList) (hl : last.toList ≠ []) (hld : AllDigits last.toList)
    (hfirst : value first.toList < 10 ^ 18) (hlast : value last.toList < 10 ^ 18) :
    parse label first last =
      .ok ⟨value first.toList, value last.toList, first.toList.length⟩ := by
  have hlimit : 10 ^ 18 < countLimit := by decide
  refine parse_eq_ok_iff.mpr ⟨⟨isUnsigned_of_allDigits hf hfd, Nat.lt_trans hfirst hlimit⟩,
    ⟨isUnsigned_of_allDigits hl hld, Nat.lt_trans hlast hlimit⟩,
    Nat.lt_of_le_of_lt (length_le hfirst hlast) hlimit, ?_⟩
  rw [utf8ByteSize_of_allDigits hfd, String.length_toList]

theorem value_lt_pow_18 {s : List Char} (hd : AllDigits s) (hn : s.length ≤ 18) :
    value s < 10 ^ 18 :=
  Nat.lt_of_lt_of_le (value_lt hd) (Nat.pow_le_pow_right (by decide) hn)

theorem parse_of_allDigits (label : String) {first last : String} (hfd : AllDigits first.toList)
    (hld : AllDigits last.toList) (hf1 : 1 ≤ first.toList.length)
    (hfn : first.toList.length ≤ 18) (hl1 : 1 ≤ last.toList.length)
    (hln : last.toList.length ≤ 18) :
    parse label first last =
      .ok ⟨value first.toList, value last.toList, first.toList.length⟩ :=
  parse_of_lt (List.ne_nil_of_length_pos hf1) hfd (List.ne_nil_of_length_pos hl1) hld
    (value_lt_pow_18 hfd hfn) (value_lt_pow_18 hld hln)

theorem length_take_of_isIccid {s : String} (h : IsIccid s) : (s.toList.take 18).length = 18 := by
  rcases h.2 with hn | ⟨p, c, hs, hp, -⟩
  · rw [List.length_take, hn]
    rfl
  · rw [hs, List.length_take, List.length_append, hp]
    rfl

theorem payload_of_isIccid {s : String} (h : IsIccid s) :
    (Luhn.payload s).toList = s.toList.take 18 := by
  rw [Luhn.payload_of_allDigits h.1, String.toList_ofList]
  rfl

theorem iccidNumber_lt {s : String} (h : IsIccid s) : iccidNumber s < 10 ^ 18 :=
  value_lt_pow_18 (h.1.take 18) (Nat.le_of_eq (length_take_of_isIccid h))

theorem parseIccid_of_isIccid {first last : String} (hf : IsIccid first) (hl : IsIccid last) :
    parseIccid first last = .ok ⟨iccidNumber first, iccidNumber last, 18⟩ := by
  have hfn := length_take_of_isIccid hf
  have hln := length_take_of_isIccid hl
  have hpf := payload_of_isIccid hf
  have hpl := payload_of_isIccid hl
  rw [← hpf] at hfn
  rw [← hpl] at hln
  have hparse := parse_of_allDigits "iccid" (hpf ▸ hf.1.take 18) (hpl ▸ hl.1.take 18)
    (by omega) (by omega) (by omega) (by omega)
  rw [hfn, hpf, hpl] at hparse
  exact hparse

/-! ## Places inside a range -/

section Places

variable {r : Range} {i j b : Nat}

theorem up_iff : r.increment = .up ↔ r.first ≤ r.last := by
  unfold increment
  split_ifs with h
  · exact iff_of_true rfl h
  · exact iff_of_false (by decide) h

/-- Up from the first number and not beyond the last, or down from it and not below. -/
theorem number_cases (h : i < r.length) :
    (r.increment = .up ∧ r.number i = r.first + i ∧ r.number i ≤ r.last) ∨
      (r.increment = .down ∧ r.first = r.number i + i ∧ r.last ≤ r.number i ∧
        r.last < r.first) := by
  unfold number increment
  unfold length at h
  split_ifs with hle
  · refine Or.inl ⟨rfl, rfl, ?_⟩
    change r.first + i ≤ r.last
    omega
  · refine Or.inr ⟨rfl, ?_⟩
    change r.first = r.first - i + i ∧ r.last ≤ r.first - i ∧ r.last < r.first
    omega

/-- No step leaves the natural numbers: the difference below is the one of the integers. -/
theorem cast_number (h : i < r.length) :
    (r.number i : Int) = r.first + i * r.increment.step := by
  rcases number_cases h with ⟨hup, hnumber, -⟩ | ⟨hdown, hnumber, -⟩
  · rw [hup]
    change (r.number i : Int) = r.first + i * 1
    omega
  · rw [hdown]
    change (r.number i : Int) = r.first + i * -1
    omega

theorem number_lt (h : i < r.length) (hf : r.first < b) (hl : r.last < b) : r.number i < b := by
  rcases number_cases h with ⟨-, -, hle⟩ | ⟨-, hnumber, -⟩
  · omega
  · omega

theorem number_between (h : i < r.length) :
    min r.first r.last ≤ r.number i ∧ r.number i ≤ max r.first r.last := by
  rcases number_cases h with ⟨-, hnumber, hle⟩ | ⟨-, hnumber, hle, -⟩
  · omega
  · omega

theorem number_zero (r : Range) : r.number 0 = r.first := by
  unfold number
  cases r.increment <;> rfl

theorem number_last (r : Range) : r.number (r.length - 1) = r.last := by
  have hpos : r.length - 1 < r.length := Nat.sub_lt (Nat.succ_pos _) Nat.one_pos
  have hlen : r.length = (r.last - r.first) + (r.first - r.last) + 1 := rfl
  rcases number_cases hpos with ⟨-, hnumber, hle⟩ | ⟨-, hnumber, hle, hlt⟩
  · omega
  · omega

theorem number_inj (hi : i < r.length) (hj : j < r.length) (h : r.number i = r.number j) :
    i = j := by
  rcases number_cases hi with ⟨hup, hnumber, -⟩ | ⟨hdown, hnumber, -⟩
  · rcases number_cases hj with ⟨-, hother, -⟩ | ⟨hdown, -⟩
    · omega
    · cases hup.symm.trans hdown
  · rcases number_cases hj with ⟨hup, -⟩ | ⟨-, hother, -⟩
    · cases hdown.symm.trans hup
    · omega

end Places

theorem nth?_of_lt {r : Range} {i : Nat} (h : i < r.length) :
    r.nth? i = some (String.ofList (padded r.width (r.number i))) := if_pos h

theorem nth?_of_le {r : Range} {i : Nat} (h : r.length ≤ i) : r.nth? i = none :=
  if_neg (Nat.not_lt.mpr h)

theorem nth?_eq_some_iff {r : Range} {i : Nat} {s : String} : r.nth? i = some s ↔
    i < r.length ∧ s = String.ofList (padded r.width (r.number i)) := by
  unfold nth?
  split_ifs with h
  · simp only [h, true_and, Option.some.injEq, eq_comm]
  · simp only [h, false_and]

theorem digits_of_nth? {r : Range} {i : Nat} {s : String} (h : r.nth? i = some s) :
    i < r.length ∧ AllDigits s.toList ∧ value s.toList = r.number i := by
  obtain ⟨hi, rfl⟩ := nth?_eq_some_iff.mp h
  rw [String.toList_ofList]
  exact ⟨hi, allDigits_padded _ _, value_padded _ _⟩

end Range

end Provisioning.Batch
