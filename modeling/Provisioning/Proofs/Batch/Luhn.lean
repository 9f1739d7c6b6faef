import Provisioning.Batch.Luhn
import Provisioning.Proofs.Text.Decimal
/-!
# The Luhn test

* `total`, `IsValid` : the test as it is usually given, on a text that ends in its check digit;
* `IsCheckDigit` : a digit that makes the test succeed behind a payload;
* `isCheckDigit_iff` : it is the digit that the sum over the payload leaves to the next ten, so
  there is one and no other (`isCheckDigit_completed`, `IsCheckDigit.unique`);
* `completed`, `append?_ofList` : a payload with its check digit;
* `payload_of_allDigits` : of a text of digits, the payload is the first 18; so a completed payload
  is known again (`payload_completed`).
-/

namespace Provisioning.Luhn
open Decimal

/-- The digit sum of the double of a digit. -/
def doubled (d : Nat) : Nat := 2 * d / 10 + 2 * d % 10

/-- The total over the digits from right to left, every second one doubled. -/
def total : List Char → Nat
  | [] => 0
  | [a] => digitValue a
  | a :: b :: r => digitValue a + doubled (digitValue b) + total r

def IsValid (s : List Char) : Prop := total s.reverse % 10 = 0

/-- `c` completes the payload `p`. -/
def IsCheckDigit (p : List Char) (c : Char) : Prop := c.isDigit = true ∧ IsValid (p ++ [c])

/-! ## Digits -/

theorem digitValue_lt {c : Char} (h : c.isDigit = true) : digitValue c < 10 := by
  obtain ⟨h48, h57⟩ := digit_bounds h
  change c.toNat - 48 < 10
  omega

theorem digitValue_digitChar {d : Nat} (h : d < 10) : digitValue (Nat.digitChar d) = d :=
  Nat.toNat_digitChar_sub_48_of_lt_ten h

theorem digitChar_digitValue {c : Char} (h : c.isDigit = true) :
    Nat.digitChar (digitValue c) = c := by
  have hlt := digitValue_lt h
  obtain ⟨h48, -⟩ := digit_bounds h
  have hval : digitValue c = c.toNat - 48 := rfl
  apply Char.toNat_inj.mp
  rw [Nat.toNat_digitChar_of_lt_ten hlt]
  omega

theorem isDigit_digitChar_of_lt {d : Nat} (h : d < 10) : (Nat.digitChar d).isDigit = true := by
  rw [Nat.isDigit_digitChar, decide_eq_true h]

theorem weighted_true_eq_doubled {d : Nat} (h : d < 10) : weighted true d = doubled d := by
  rw [weighted, if_pos rfl, doubled]
  split <;> omega

/-! ## The test and the sum -/

theorem sum_false_eq_total {s : List Char} (h : AllDigits s) : sum false s = total s := by
  fun_induction total s with
  | case1 => rfl
  | case2 a => simp [sum, weighted]
  | case3 a b r ih =>
    have hb := digitValue_lt h.tail.head
    rw [sum, Bool.not_false, sum, Bool.not_true, ih h.tail.tail,
      weighted_true_eq_doubled hb, ← Nat.add_assoc]
    rfl

theorem isValid_append_singleton {p : List Char} {c : Char} (hp : AllDigits p)
    (hc : c.isDigit = true) :
    IsValid (p ++ [c]) ↔ (digitValue c + sum true p.reverse) % 10 = 0 := by
  rw [IsValid, ← sum_false_eq_total (hp.concat hc).reverse, List.reverse_append,
    List.reverse_singleton, List.singleton_append]
  rfl

/-- What the sum over a payload leaves to the next ten. -/
def complement (p : List Char) : Nat := (10 - sum true p.reverse % 10) % 10

theorem complement_lt (p : List Char) : complement p < 10 := Nat.mod_lt _ (by decide)

/-- A payload with its check digit. -/
def completed (p : List Char) : List Char := p ++ [Nat.digitChar (complement p)]

theorem isCheckDigit_iff {p : List Char} {c : Char} (hp : AllDigits p) :
    IsCheckDigit p c ↔ c = Nat.digitChar (complement p) := by
  have hlt := complement_lt p
  constructor
  · rintro ⟨hc, hv⟩
    rw [isValid_append_singleton hp hc] at hv
    have := digitValue_lt hc
    rw [← digitChar_digitValue hc]
    congr 1
    unfold complement
    omega
  · rintro rfl
    have hc := isDigit_digitChar_of_lt hlt
    refine ⟨hc, (isValid_append_singleton hp hc).mpr ?_⟩
    rw [digitValue_digitChar hlt]
    unfold complement
    omega

theorem isCheckDigit_completed {p : List Char} (hp : AllDigits p) :
    IsCheckDigit p (Nat.digitChar (complement p)) := (isCheckDigit_iff hp).mpr rfl

theorem IsCheckDigit.unique {p : List Char} {c c' : Char} (hp : AllDigits p)
    (h : IsCheckDigit p c) (h' : IsCheckDigit p c') : c = c' :=
  ((isCheckDigit_iff hp).mp h).trans ((isCheckDigit_iff hp).mp h').symm

/-! ## Payloads -/

theorem checkDigit?_eq {s : String} (hne : s.toList ≠ []) (h : AllDigits s.toList) :
    checkDigit? s = some (complement s.toList) := by
  have hall : s.toList.all Char.isDigit = true := List.all_eq_true.mpr h
  simp [checkDigit?, hne, hall, complement]

theorem append?_ofList {p : List Char} (hne : p ≠ []) (h : AllDigits p) :
    append? (String.ofList p) = some (String.ofList (completed p)) := by
  have hcheck := checkDigit?_eq (s := String.ofList p)
  simp only [String.toList_ofList] at hcheck
  rw [append?, hcheck hne h, Option.map_some, Option.some.injEq, ← String.toList_inj,
    String.toList_push, String.toList_ofList, String.toList_ofList]
  rfl

theorem allDigits_completed {p : List Char} (h : AllDigits p) : AllDigits (completed p) :=
  h.concat (isDigit_digitChar_of_lt (complement_lt p))

theorem takeBytes?_of_allDigits {n : Nat} {s : List Char} (h : AllDigits s) (hn : n ≤ s.length) :
    takeBytes? n s = some (s.take n) := by
  induction s generalizing n with
  | nil =>
    obtain rfl : n = 0 := Nat.le_zero.mp hn
    rfl
  | cons c s ih =>
    cases n with
    | zero => rfl
    | succ n =>
      rw [takeBytes?, utf8Size_of_isDigit h.head, if_pos (Nat.le_add_left 1 n),
        Nat.add_sub_cancel, ih h.tail (Nat.le_of_succ_le_succ hn), Option.map_some, List.take_succ_cons]

theorem payload_of_allDigits {s : String} (h : AllDigits s.toList) :
    payload s = String.ofList (s.toList.take payloadLength) := by
  rw [payload, utf8ByteSize_of_allDigits h, ← String.length_toList]
  split
  · rename_i hlt
    rw [takeBytes?_of_allDigits h (Nat.le_of_lt hlt)]
  · rename_i hge
    rw [List.take_of_length_le (Nat.le_of_not_lt hge), String.ofList_toList]

theorem payload_completed {p : List Char} (hd : AllDigits p) (hp : p.length = payloadLength) :
    payload (String.ofList (completed p)) = String.ofList p := by
  have hlist : (String.ofList (completed p)).toList = completed p := String.toList_ofList
  have hall : AllDigits (String.ofList (completed p)).toList := by
    rw [hlist]
    exact allDigits_completed hd
  rw [payload_of_allDigits hall, hlist, completed, ← hp, List.take_left]

end Provisioning.Luhn
