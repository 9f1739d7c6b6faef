import Provisioning.Proofs.Batch.Limits
/-!
# The width of written identifiers

The identifiers of a range are filled up to the width of its first end. This width is counted in
bytes, so a plus sign in front of the digits counts as one more digit.

* `Range.KeepsWidth` : what is written starts with the first end itself, and has as many digits as
  that has, or more only where the number needs them;
* `length_of_nth?` : how many digits a range gives to each number;
* `keepsWidth_of_allDigits` : plain digits keep their width;
* `nth?_zero_of_plus` : behind a plus sign there is one zero that nobody wrote;
* `keepsWidth_iff` : so the width is kept exactly for an end of plain digits.
-/

namespace Provisioning.Batch
open Decimal

namespace Range

/-- The digits of `first` are kept: it is the identifier in front, and all others have as many
digits, or as many as their numbers need. -/
def KeepsWidth (r : Range) (first : String) : Prop :=
  r.nth? 0 = some first ∧ ∀ i s, r.nth? i = some s → AllDigits s.toList ∧
    s.toList.length = max (first.toList.countP Char.isDigit) (render (value s.toList)).length

variable {r : Range} {label first last : String}

theorem length_of_nth? {i : Nat} {s : String} (h : r.nth? i = some s) : AllDigits s.toList ∧
    s.toList.length = max r.width (render (value s.toList)).length := by
  obtain ⟨-, rfl⟩ := nth?_eq_some_iff.mp h
  rw [String.toList_ofList, value_padded, length_padded_eq_max]
  exact ⟨allDigits_padded _ _, rfl⟩

theorem nth?_zero (r : Range) :
    r.nth? 0 = some (String.ofList (padded r.width r.first)) := by
  rw [nth?_of_lt (Nat.succ_pos _), number_zero]

theorem digits_or_plus (h : parse label first last = .ok r) :
    AllDigits first.toList ∧ first.toList ≠ [] ∧ value first.toList = r.first ∨
      ∃ digits, first.toList = '+' :: digits ∧ AllDigits digits ∧ value digits = r.first := by
  obtain ⟨⟨⟨sign, digits, hs, rfl | rfl, hne, hd, hvalue⟩, -⟩, -⟩ := parse_eq_ok_iff.mp h
  · rw [List.nil_append] at hs
    rw [hs]
    exact Or.inl ⟨hd, hne, hvalue⟩
  · exact Or.inr ⟨digits, hs, hd, hvalue⟩

theorem keepsWidth_of_allDigits (h : parse label first last = .ok r)
    (hd : AllDigits first.toList) : r.KeepsWidth first := by
  obtain ⟨-, -, -, hwidth⟩ := parse_eq_ok_iff.mp h
  rw [utf8ByteSize_of_allDigits hd, ← String.length_toList] at hwidth
  have hcount : first.toList.countP Char.isDigit = first.toList.length :=
    List.countP_eq_length.mpr hd
  refine ⟨?_, fun i s hs => ?_⟩
  · rcases digits_or_plus h with ⟨-, hne, hvalue⟩ | ⟨digits, hplus, -⟩
    · rw [nth?_zero, hwidth, ← hvalue, padded_value hd hne, String.ofList_toList]
    · have hsign := hd '+' (hplus ▸ List.mem_cons_self)
      exact absurd hsign (by decide)
  · rw [hcount, ← hwidth]
    exact length_of_nth? hs

section Plus

variable {digits : List Char}

theorem width_of_plus (h : parse label first last = .ok r) (hplus : first.toList = '+' :: digits)
    (hd : AllDigits digits) : r.width = digits.length + 1 := by
  obtain ⟨-, -, -, hwidth⟩ := parse_eq_ok_iff.mp h
  rw [hwidth, utf8ByteSize_eq, hplus, Utf8.byteLength, byteLength_of_allDigits hd, Nat.add_comm]
  rfl

/-- Behind the sign there are as many digits as there are, and a zero in front of them. -/
theorem nth?_zero_of_plus (h : parse label first last = .ok r)
    (hplus : first.toList = '+' :: digits) (hd : AllDigits digits)
    (hvalue : value digits = r.first) : r.nth? 0 = some (String.ofList ('0' :: digits)) := by
  have hzero : AllDigits ('0' :: digits) := by
    intro c hc
    rcases List.mem_cons.mp hc with rfl | hc
    · decide
    · exact hd c hc
  have hsame : value ('0' :: digits) = value digits := by
    rw [value_cons, show '0'.toNat - 48 = 0 from rfl, Nat.mul_zero, Nat.zero_add]
  have hpadded := padded_value hzero (List.cons_ne_nil _ _)
  rw [hsame, List.length_cons] at hpadded
  rw [nth?_zero, width_of_plus h hplus hd, ← hvalue, hpadded]

end Plus

/-- A range whose first end is not too wide is written in words as it is here. The width is kept
exactly for plain digits. In all other ranges the first end has a plus sign instead, which the first
identifier has a zero for, and nothing is written with fewer digits than that one. -/
theorem keepsWidth_iff (hwidth : first.utf8ByteSize < widthLimit)
    (h : parse label first last = .ok r) :
    (∃ w, WordRange.parse label first last = .ok w ∧ w.toRange = r ∧ w.Fits) ∧
    (r.KeepsWidth first ↔ AllDigits first.toList) ∧
    (AllDigits first.toList ∨ ∃ digits, first.toList = '+' :: digits ∧ AllDigits digits ∧
      r.nth? 0 = some (String.ofList ('0' :: digits)) ∧
      ∀ i s, r.nth? i = some s → AllDigits s.toList ∧
        s.toList.length = max (digits.length + 1) (render (value s.toList)).length) := by
  refine ⟨WordRange.exists_fits hwidth h, ⟨fun hkeeps => ?_, keepsWidth_of_allDigits h⟩, ?_⟩
  · exact (hkeeps.2 0 first hkeeps.1).1
  · rcases digits_or_plus h with ⟨hd, -⟩ | ⟨digits, hplus, hd, hvalue⟩
    · exact Or.inl hd
    · refine Or.inr ⟨digits, hplus, hd, nth?_zero_of_plus h hplus hd hvalue, fun i s hs => ?_⟩
      rw [← width_of_plus h hplus hd]
      exact length_of_nth? hs

/-- Zeros in front are kept, and a plus sign turns into one more. -/
theorem keepsWidth_zeros_plus :
    (parse "msisdn" "007" "12" = .ok ⟨7, 12, 3⟩ ∧ KeepsWidth ⟨7, 12, 3⟩ "007") ∧
    (parse "msisdn" "+5" "7" = .ok ⟨5, 7, 2⟩ ∧ ¬ KeepsWidth ⟨5, 7, 2⟩ "+5" ∧
      nth? ⟨5, 7, 2⟩ 1 = some "06") := by
  have hzeros : parse "msisdn" "007" "12" = .ok ⟨7, 12, 3⟩ := rfl
  have hplus : parse "msisdn" "+5" "7" = .ok ⟨5, 7, 2⟩ := rfl
  have hdigits : AllDigits "007".toList := (isDigits_iff.mp (by decide)).2
  have hnot : ¬ AllDigits "+5".toList := fun hd => absurd (hd '+' (by decide)) (by decide)
  exact ⟨⟨hzeros, (keepsWidth_iff (by decide) hzeros).2.1.mpr hdigits⟩,
    hplus, mt (keepsWidth_iff (by decide) hplus).2.1.mp hnot, rfl⟩

/-- The second number from five on is six, and six has one digit as five has. -/
theorem not_keepsWidth :
    ¬ ∀ (label first last : String) (r : Range), first.utf8ByteSize < widthLimit →
      parse label first last = .ok r → r.KeepsWidth first := by
  intro h
  have hkeeps := h "msisdn" "+5" "7" ⟨5, 7, 2⟩ (by decide) rfl
  have hlength := (hkeeps.2 1 "06" rfl).2
  revert hlength
  decide

end Range

end Provisioning.Batch
