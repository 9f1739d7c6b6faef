import Mathlib.Data.Set.Insert
import Provisioning.Proofs.Batch.Checksum
/-!
# Errors that a check digit shows

* `OneApart` : texts that differ in exactly one place (`OneApart.exists_place`);
* `Exchanges` : texts that differ by an exchange of two neighbours;
* `exists_sum_reverse`, `exists_sum_reverse_pair` : what one digit adds to a sum, and what two
  neighbours add;
* `gain` : what doubling adds to a digit; only 0 and 9 gain the same (`gain_eq_iff`);
* `residue` : the sum over a text up to tens; it decides the check digit (`complement_eq_iff`) and
  the Luhn test (`isValid_iff_residue`);
* `residue_ne_of_oneApart` : a changed digit changes it;
* `residue_eq_iff_of_exchanges` : an exchange changes it, unless the digits are 0 and 9;
* `changes_detected`, `exchanges_detected` : so do they change the check digit, and make an ICCID
  that carries one no ICCID.
-/

namespace Provisioning.Luhn
open Decimal Batch

/-! ## Errors -/

/-- Texts of one length that differ in exactly one place. -/
structure OneApart (s t : List Char) : Prop where
  length_eq : s.length = t.length
  place : ∃! i : Nat, s[i]? ≠ t[i]?

/-- `t` is `s` with the neighbours `a` and `b` exchanged. -/
def Exchanges (s t : List Char) (a b : Char) : Prop :=
  ∃ front back, s = front ++ a :: b :: back ∧ t = front ++ b :: a :: back

theorem OneApart.exists_place {s t : List Char} (h : OneApart s t) :
    ∃ front a b back, a ≠ b ∧ s = front ++ a :: back ∧ t = front ++ b :: back := by
  obtain ⟨i, hi, honly⟩ := h.place
  have hagree : ∀ j, j ≠ i → s[j]? = t[j]? :=
    fun j hj => by_contra fun hne => hj (honly j hne)
  have hs : i < s.length := by
    by_contra hge
    have hle := Nat.le_of_not_lt hge
    exact hi (by rw [List.getElem?_eq_none hle, List.getElem?_eq_none (h.length_eq ▸ hle)])
  have ht : i < t.length := h.length_eq ▸ hs
  have htake : s.take i = t.take i := by
    apply List.ext_getElem?
    intro j
    rw [List.getElem?_take, List.getElem?_take]
    split
    · exact hagree j (by omega)
    · rfl
  have hdrop : s.drop (i + 1) = t.drop (i + 1) := by
    apply List.ext_getElem?
    intro j
    rw [List.getElem?_drop, List.getElem?_drop]
    exact hagree _ (by omega)
  refine ⟨s.take i, s[i], t[i], s.drop (i + 1), ?_, ?_, ?_⟩
  · intro heq
    exact hi (by rw [List.getElem?_eq_getElem hs, List.getElem?_eq_getElem ht, heq])
  · rw [← List.drop_eq_getElem_cons hs, List.take_append_drop]
  · rw [htake, hdrop, ← List.drop_eq_getElem_cons ht, List.take_append_drop]

theorem oneApart_append_cons {a b : Char} (h : a ≠ b) (front back : List Char) :
    OneApart (front ++ a :: back) (front ++ b :: back) := by
  refine ⟨by simp, front.length, by simpa using h, ?_⟩
  intro j hj
  by_contra hne
  apply hj
  rcases Nat.lt_or_gt_of_ne hne with hlt | hgt
  · rw [List.getElem?_append_left hlt, List.getElem?_append_left hlt]
  · obtain ⟨k, rfl⟩ := Nat.exists_eq_add_of_lt hgt
    have hsub : front.length + k + 1 - front.length = k + 1 := by omega
    rw [List.getElem?_append_right (by omega), List.getElem?_append_right (by omega), hsub,
      List.getElem?_cons_succ, List.getElem?_cons_succ]

theorem Exchanges.length_eq {s t : List Char} {a b : Char} (h : Exchanges s t a b) :
    s.length = t.length := by
  obtain ⟨front, back, rfl, rfl⟩ := h
  simp

theorem Exchanges.allDigits {s t : List Char} {a b : Char} (h : Exchanges s t a b)
    (hs : AllDigits s) : AllDigits t := by
  obtain ⟨front, back, rfl, rfl⟩ := h
  intro c hc
  apply hs c
  simp only [List.mem_append, List.mem_cons] at hc ⊢
  tauto

/-! ## Parts of a sum -/

/-- Behind a text, a sum goes on by what follows alone. -/
theorem exists_sum_append (doubled : Bool) (s : List Char) :
    ∃ doubled', ∀ t, sum doubled (s ++ t) = sum doubled s + sum doubled' t := by
  induction s generalizing doubled with
  | nil => exact ⟨doubled, fun t => (Nat.zero_add _).symm⟩
  | cons c s ih =>
    obtain ⟨doubled', hsum⟩ := ih (!doubled)
    refine ⟨doubled', fun t => ?_⟩
    rw [List.cons_append, sum, sum, hsum t, Nat.add_assoc]

/-- A place is doubled or not, whichever digit stands there. -/
theorem exists_sum_reverse (doubled : Bool) (front back : List Char) :
    ∃ doubled' rest, ∀ c, sum doubled (front ++ c :: back).reverse =
      rest + weighted doubled' (digitValue c) := by
  obtain ⟨doubled', hsum⟩ := exists_sum_append doubled back.reverse
  refine ⟨doubled', sum doubled back.reverse + sum (!doubled') front.reverse, fun c => ?_⟩
  have hrev : (front ++ c :: back).reverse = back.reverse ++ c :: front.reverse := by simp
  rw [hrev, hsum, sum]
  omega

/-- Of two neighbours, one is doubled. -/
theorem exists_sum_reverse_pair (doubled : Bool) (front back : List Char) :
    ∃ doubled' rest, ∀ a b, sum doubled (front ++ a :: b :: back).reverse =
      rest + (weighted doubled' (digitValue b) + weighted (!doubled') (digitValue a)) := by
  obtain ⟨doubled', hsum⟩ := exists_sum_append doubled back.reverse
  refine ⟨doubled', sum doubled back.reverse + sum doubled' front.reverse, fun a b => ?_⟩
  have hrev : (front ++ a :: b :: back).reverse = back.reverse ++ b :: a :: front.reverse := by
    simp
  rw [hrev, hsum, sum, sum, Bool.not_not]
  omega

/-! ## Digits -/

theorem digitValue_inj {a b : Char} (ha : a.isDigit = true) (hb : b.isDigit = true) :
    digitValue a = digitValue b ↔ a = b := by
  constructor
  · intro h
    rw [← digitChar_digitValue ha, h, digitChar_digitValue hb]
  · rintro rfl
    rfl

theorem weighted_inj (doubled : Bool) {d e : Nat} (hd : d < 10) (he : e < 10) :
    weighted doubled d = weighted doubled e ↔ d = e := by
  unfold weighted
  split_ifs <;> omega

/-- What doubling adds to a digit, up to tens. -/
def gain (d : Nat) : Nat := if d < 5 then d else if d < 9 then d + 1 else 0

theorem gain_lt (d : Nat) : gain d < 10 := by
  unfold gain
  split_ifs <;> omega

theorem weighted_true_mod {d : Nat} (h : d < 10) : weighted true d % 10 = (d + gain d) % 10 := by
  rw [weighted, if_pos rfl, gain]
  split_ifs <;> omega

/-- Doubling leaves 0 and 9 as they are, and each other digit it changes by an amount of its own. -/
theorem gain_eq_iff {d e : Nat} (hd : d < 10) (he : e < 10) :
    gain d = gain e ↔ d = e ∨ d = 0 ∧ e = 9 ∨ d = 9 ∧ e = 0 := by
  constructor
  · intro h
    unfold gain at h
    split_ifs at h <;> omega
  · rintro (rfl | ⟨rfl, rfl⟩ | ⟨rfl, rfl⟩) <;> rfl

theorem weighted_exchange_iff (doubled : Bool) {d e : Nat} (hd : d < 10) (he : e < 10) :
    (weighted doubled e + weighted (!doubled) d) % 10 =
        (weighted doubled d + weighted (!doubled) e) % 10 ↔ gain d = gain e := by
  have hplain : ∀ x, weighted false x = x := fun _ => rfl
  have hmodd := weighted_true_mod hd
  have hmode := weighted_true_mod he
  have hltd := gain_lt d
  have hlte := gain_lt e
  cases doubled with
  | false =>
    rw [Bool.not_false, hplain, hplain]
    omega
  | true =>
    rw [Bool.not_true, hplain, hplain]
    omega

/-! ## Sums up to tens -/

def residue (doubled : Bool) (s : List Char) : Nat := sum doubled s.reverse % 10

theorem complement_eq_iff {s t : List Char} :
    complement s = complement t ↔ residue true s = residue true t := by
  unfold complement residue
  omega

theorem isValid_iff_residue {s : List Char} (h : AllDigits s) : IsValid s ↔ residue false s = 0 := by
  rw [IsValid, residue, sum_false_eq_total h.reverse]

theorem residue_ne_of_oneApart (doubled : Bool) {s t : List Char} (hs : AllDigits s)
    (ht : AllDigits t) (h : OneApart s t) : residue doubled s ≠ residue doubled t := by
  obtain ⟨front, a, b, back, hne, rfl, rfl⟩ := h.exists_place
  obtain ⟨doubled', rest, hsum⟩ := exists_sum_reverse doubled front back
  have ha := hs a (by simp)
  have hb := ht b (by simp)
  have hweight : weighted doubled' (digitValue a) ≠ weighted doubled' (digitValue b) := by
    rw [ne_eq, weighted_inj doubled' (digitValue_lt ha) (digitValue_lt hb), digitValue_inj ha hb]
    exact hne
  have hlta := weighted_lt doubled' (digitValue_lt ha)
  have hltb := weighted_lt doubled' (digitValue_lt hb)
  rw [residue, residue, hsum, hsum]
  omega

theorem residue_eq_iff_of_exchanges (doubled : Bool) {s t : List Char} {a b : Char}
    (hs : AllDigits s) (h : Exchanges s t a b) (hne : a ≠ b) :
    residue doubled s = residue doubled t ↔ ({a, b} : Set Char) = {'0', '9'} := by
  obtain ⟨front, back, rfl, rfl⟩ := h
  obtain ⟨doubled', rest, hsum⟩ := exists_sum_reverse_pair doubled front back
  have ha := hs a (by simp)
  have hb := hs b (by simp)
  have hvalues := gain_eq_iff (digitValue_lt ha) (digitValue_lt hb)
  have hzero : digitValue '0' = 0 := rfl
  have hnine : digitValue '9' = 9 := rfl
  rw [← hzero, ← hnine, digitValue_inj ha hb, digitValue_inj ha rfl, digitValue_inj hb rfl,
    digitValue_inj ha rfl, digitValue_inj hb rfl] at hvalues
  have hrest : ∀ x y, (rest + x) % 10 = (rest + y) % 10 ↔ x % 10 = y % 10 := by
    intro x y
    omega
  rw [residue, residue, hsum, hsum, hrest,
    weighted_exchange_iff doubled' (digitValue_lt ha) (digitValue_lt hb), hvalues,
    Set.pair_eq_pair_iff]
  exact or_iff_right hne

/-! ## Detection -/

/-- A payload that has a check digit. -/
theorem checkDigit?_of_mem {s : String} (h : AllDigits s.toList) {c : Char} (hc : c ∈ s.toList) :
    checkDigit? s = some (complement s.toList) :=
  checkDigit?_eq (List.ne_nil_of_mem hc) h

theorem isIccid_iff_residue {s : String} (h : AllDigits s.toList) (hn : s.toList.length = 19) :
    IsIccid s ↔ residue false s.toList = 0 := by
  rw [isIccid_iff, ← isValid_iff_residue h, hn]
  constructor
  · rintro ⟨-, hshort | ⟨-, hvalid⟩⟩
    · omega
    · exact hvalid
  · intro hvalid
    exact ⟨h, Or.inr ⟨rfl, hvalid⟩⟩

/-- One changed digit changes the check digit, and makes an ICCID that carries one no ICCID. -/
theorem changes_detected :
    (∀ s t : String, AllDigits s.toList → AllDigits t.toList → OneApart s.toList t.toList →
      ∃ c c', checkDigit? s = some c ∧ checkDigit? t = some c' ∧ c ≠ c') ∧
    (∀ label s : String, (∃ a, Field.iccid label s = .ok a) → s.toList.length = 19 →
      ∀ label' t : String, AllDigits t.toList → OneApart s.toList t.toList →
        ∃ expected, Field.iccid label' t = .error (.invalidFormat label' t expected)) := by
  constructor
  · intro s t hs ht h
    have hresidue := residue_ne_of_oneApart true hs ht h
    obtain ⟨front, a, b, back, -, hsplit, htplit⟩ := h.exists_place
    refine ⟨_, _, checkDigit?_of_mem hs (c := a) (by rw [hsplit]; simp),
      checkDigit?_of_mem ht (c := b) (by rw [htplit]; simp), ?_⟩
    exact fun heq => hresidue (complement_eq_iff.mp heq)
  · intro label s haccept hn label' t ht h
    rw [Field.iccid_accepts_iff] at haccept
    have hresidue := residue_ne_of_oneApart false haccept.1 ht h
    rw [(isIccid_iff_residue haccept.1 hn).mp haccept] at hresidue
    apply (Field.answers_iccid label' t).rejects
    change ¬ IsIccid t
    rw [isIccid_iff_residue ht (h.length_eq.symm.trans hn)]
    exact hresidue.symm

theorem changes_detected_sample :
    checkDigit? "7992739871" ≠ checkDigit? "7992739971" ∧
    ∃ expected, Field.iccid "last-iccid" "8901000000000000101" =
      .error (.invalidFormat "last-iccid" "8901000000000000101" expected) := by
  obtain ⟨hpayload, hiccid⟩ := changes_detected
  constructor
  · have hplace : OneApart "7992739871".toList "7992739971".toList :=
      oneApart_append_cons (by decide) "7992739".toList "71".toList
    obtain ⟨c, c', hc, hc', hne⟩ := hpayload "7992739871" "7992739971"
      (isDigits_iff.mp rfl).2 (isDigits_iff.mp rfl).2 hplace
    rw [hc, hc']
    exact fun heq => hne (Option.some.inj heq)
  · have hplace : OneApart "8901000000000000001".toList "8901000000000000101".toList :=
      oneApart_append_cons (by decide) "8901000000000000".toList "01".toList
    exact hiccid "first-iccid" "8901000000000000001" ⟨_, rfl⟩ rfl "last-iccid" _
      (isDigits_iff.mp rfl).2 hplace

/-- An exchange of two different neighbours changes the check digit, and makes an ICCID that
carries one no ICCID, unless the two are 0 and 9. -/
theorem exchanges_detected :
    (∀ (s t : String) (a b : Char), AllDigits s.toList → Exchanges s.toList t.toList a b → a ≠ b →
      ∃ c c', checkDigit? s = some c ∧ checkDigit? t = some c' ∧
        (c ≠ c' ↔ ({a, b} : Set Char) ≠ {'0', '9'})) ∧
    (∀ label s : String, (∃ a, Field.iccid label s = .ok a) → s.toList.length = 19 →
      ∀ (label' t : String) (a b : Char), Exchanges s.toList t.toList a b → a ≠ b →
        ((∃ e, Field.iccid label' t = .error e) ↔ ({a, b} : Set Char) ≠ {'0', '9'})) := by
  constructor
  · intro s t a b hs h hne
    have hresidue := residue_eq_iff_of_exchanges true hs h hne
    have ht := h.allDigits hs
    obtain ⟨front, back, hsplit, htplit⟩ := h
    refine ⟨_, _, checkDigit?_of_mem hs (c := a) (by rw [hsplit]; simp),
      checkDigit?_of_mem ht (c := a) (by rw [htplit]; simp), ?_⟩
    rw [ne_eq, ne_eq, complement_eq_iff, hresidue]
  · intro label s haccept hn label' t a b h hne
    rw [Field.iccid_accepts_iff] at haccept
    have hresidue := residue_eq_iff_of_exchanges false haccept.1 h hne
    rw [(isIccid_iff_residue haccept.1 hn).mp haccept] at hresidue
    rw [Field.iccid_rejects_iff, ne_eq, ← hresidue,
      isIccid_iff_residue (h.allDigits haccept.1) (h.length_eq.symm.trans hn)]
    exact not_congr eq_comm

theorem exchanges_detected_sample :
    checkDigit? "7992739871" ≠ checkDigit? "9792739871" ∧
    (∃ e, Field.iccid "last-iccid" "8901000000000000010" = .error e) ∧
    ¬ ∃ e, Field.iccid "last-iccid" "8091000000000000001" = .error e := by
  obtain ⟨hpayload, hiccid⟩ := exchanges_detected
  have hvalid := hiccid "first-iccid" "8901000000000000001" ⟨_, rfl⟩ rfl
  refine ⟨?_, ?_, ?_⟩
  · have hplace : Exchanges "7992739871".toList "9792739871".toList '7' '9' :=
      ⟨[], "92739871".toList, rfl, rfl⟩
    obtain ⟨c, c', hc, hc', hiff⟩ := hpayload "7992739871" "9792739871" '7' '9'
      (isDigits_iff.mp rfl).2 hplace (by decide)
    have hne := hiff.mpr (by simp [Set.pair_eq_pair_iff])
    rw [hc, hc']
    exact fun heq => hne (Option.some.inj heq)
  · have hplace : Exchanges "8901000000000000001".toList "8901000000000000010".toList '0' '1' :=
      ⟨"89010000000000000".toList, [], rfl, rfl⟩
    exact (hvalid "last-iccid" _ '0' '1' hplace (by decide)).mpr (by simp [Set.pair_eq_pair_iff])
  · have hplace : Exchanges "8901000000000000001".toList "8091000000000000001".toList '9' '0' :=
      ⟨"8".toList, "1000000000000001".toList, rfl, rfl⟩
    rw [hvalid "last-iccid" _ '9' '0' hplace (by decide)]
    exact fun hne => hne (Set.pair_comm '9' '0')

end Provisioning.Luhn
