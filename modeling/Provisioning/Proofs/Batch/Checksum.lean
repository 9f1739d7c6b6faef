import Provisioning.Proofs.Batch.Field
import Provisioning.Proofs.Text.Utf8
/-!
# Check digits in words of the machine

The sum over a payload is taken over bytes, and it is kept in a word of 32 bits.

* `wordSum?`, `checkDigitWord?` : the check digit as it is computed with such words;
* `wordDigits` : up to so many digits, the sum fits (`sum_lt_of_length_le`);
* `wordSum?_eq`, `wordSum?_eq_none` : a run of the loop over digits, and over anything else;
* `checkDigit?_eq_word` : up to that length, the words make no difference;
* `isIccid_iff` : of 19 digits, an ICCID asks the Luhn test of the whole;
* `isIccid_push_iff` : which digit behind a payload makes an ICCID;
* `checkDigit_completes` : the check digit is the one digit that completes a payload, and an ICCID
  of 19 digits is accepted only with that digit behind its payload.
-/

namespace Provisioning.Luhn
open Decimal

/-! ## Sums in words -/

def weightedWord (doubled : Bool) (d : UInt32) : UInt32 :=
  if doubled then (if 2 * d > 9 then 2 * d - 9 else 2 * d) else d

def isDigitByte (b : UInt8) : Bool := 0x30 ≤ b && b ≤ 0x39

/-- Adds the digits to a sum, given as bytes from right to left; `none` at a byte that is no
digit. -/
def wordSum? : Bool → UInt32 → List UInt8 → Option UInt32
  | _, acc, [] => some acc
  | doubled, acc, b :: r =>
    if isDigitByte b then wordSum? (!doubled) (acc + weightedWord doubled (b - 0x30).toUInt32) r
    else none

def checkDigitWord? (s : String) : Option UInt8 :=
  let bytes := Utf8.encodeText s
  if bytes.isEmpty then none
  else (wordSum? true 0 bytes.reverse).map fun sum => ((10 - sum % 10) % 10).toUInt8

/-- Up to so many digits, the sum fits a word. -/
def wordDigits : Nat := 477218588

theorem weighted_lt (doubled : Bool) {d : Nat} (h : d < 10) : weighted doubled d < 10 := by
  unfold weighted
  split_ifs <;> omega

theorem sum_le (doubled : Bool) {s : List Char} (h : AllDigits s) : sum doubled s ≤ 9 * s.length := by
  induction s generalizing doubled with
  | nil => exact Nat.le_refl 0
  | cons c s ih =>
    have hc := weighted_lt doubled (digitValue_lt h.head)
    have hs := ih (!doubled) h.tail
    rw [sum, List.length_cons]
    omega

theorem sum_lt_of_length_le (doubled : Bool) {s : List Char} (h : AllDigits s)
    (hlen : s.length ≤ wordDigits) : sum doubled s < UInt32.size := by
  have hle := sum_le doubled h
  unfold wordDigits at hlen
  have hsize : UInt32.size = 4294967296 := rfl
  omega

/-! ## Digits as bytes -/

def byteOf (c : Char) : UInt8 := UInt8.ofNat c.toNat

theorem toNat_byteOf {c : Char} (h : c.toNat < 128) : (byteOf c).toNat = c.toNat := by
  rw [byteOf, UInt8.toNat_ofNat']
  omega

theorem isDigitByte_iff {b : UInt8} : isDigitByte b = true ↔ 48 ≤ b.toNat ∧ b.toNat ≤ 57 := by
  rw [isDigitByte, Bool.and_eq_true, decide_eq_true_eq, decide_eq_true_eq, UInt8.le_iff_toNat_le,
    UInt8.le_iff_toNat_le]
  rfl

theorem isDigitByte_byteOf {c : Char} (h : c.toNat < 128) :
    isDigitByte (byteOf c) = true ↔ c.isDigit = true := by
  rw [isDigitByte_iff, toNat_byteOf h, Char.isDigit_iff_toNat]
  rfl

theorem encode_of_allDigits {s : List Char} (h : AllDigits s) : Utf8.encode s = s.map byteOf := by
  induction s with
  | nil => rfl
  | cons c s ih =>
    obtain ⟨-, h57⟩ := digit_bounds h.head
    rw [Utf8.encode_cons, Utf8.utf8EncodeChar_of_lt (by omega), ih h.tail]
    rfl

theorem exists_not_isDigitByte {s : List Char} (h : ¬ AllDigits s) :
    ∃ b ∈ Utf8.encode s, isDigitByte b = false := by
  obtain ⟨c, hc, hno⟩ : ∃ c ∈ s, c.isDigit = false := by
    simpa [AllDigits] using h
  have hmem : ∀ b ∈ String.utf8EncodeChar c, b ∈ Utf8.encode s :=
    fun b hb => List.mem_flatMap.mpr ⟨c, hc, hb⟩
  by_cases hlt : c.toNat < 128
  · refine ⟨byteOf c, hmem _ ?_, ?_⟩
    · rw [Utf8.utf8EncodeChar_of_lt hlt]
      exact List.mem_singleton.mpr rfl
    · rw [← Bool.not_eq_true, isDigitByte_byteOf hlt, hno]
      decide
  · -- all bytes of such a character are above the digits, the first one too
    obtain ⟨b, hb⟩ := List.exists_mem_of_ne_nil _ (Utf8.utf8EncodeChar_ne_nil c)
    have hge := Utf8.le_of_mem_utf8EncodeChar (Nat.le_of_not_lt hlt) hb
    refine ⟨b, hmem b hb, ?_⟩
    rw [← Bool.not_eq_true, isDigitByte_iff]
    omega

/-! ## The loop -/

theorem toNat_weightedWord (doubled : Bool) {d : UInt32} (h : d.toNat < 10) :
    (weightedWord doubled d).toNat = weighted doubled d.toNat := by
  have htwice : (2 * d).toNat = 2 * d.toNat := by
    rw [UInt32.toNat_mul]
    exact Nat.mod_eq_of_lt (by simp; omega)
  cases doubled with
  | false => rfl
  | true =>
    have hgt : 2 * d > 9 ↔ 2 * d.toNat > 9 := by
      rw [gt_iff_lt, UInt32.lt_iff_toNat_lt, htwice]
      rfl
    unfold weightedWord weighted
    rw [if_pos rfl, if_pos rfl]
    split
    · rename_i hbig
      rw [if_pos (hgt.mp hbig), UInt32.toNat_sub_of_le _ _ (UInt32.le_of_lt hbig), htwice]
      rfl
    · rename_i hsmall
      rw [if_neg (fun h => hsmall (hgt.mpr h)), htwice]

theorem toNat_digitByte {c : Char} (h : c.isDigit = true) :
    (byteOf c - 0x30).toUInt32.toNat = digitValue c := by
  obtain ⟨h48, h57⟩ := digit_bounds h
  have hbyte := toNat_byteOf (c := c) (by omega)
  have hle : (0x30 : UInt8) ≤ byteOf c := by
    rw [UInt8.le_iff_toNat_le, hbyte]
    exact h48
  rw [UInt8.toNat_toUInt32, UInt8.toNat_sub_of_le _ _ hle, hbyte]
  rfl

/-- Over digits the loop ends with the sum, as long as the word has room for as many nines. -/
theorem wordSum?_eq (doubled : Bool) (acc : UInt32) {s : List Char} (h : AllDigits s)
    (hroom : acc.toNat + 9 * s.length < UInt32.size) :
    ∃ sum', wordSum? doubled acc (s.map byteOf) = some sum' ∧
      sum'.toNat = acc.toNat + sum doubled s := by
  induction s generalizing doubled acc with
  | nil => exact ⟨acc, rfl, rfl⟩
  | cons c s ih =>
    have hc := h.head
    obtain ⟨-, h57⟩ := digit_bounds hc
    have hbyte : isDigitByte (byteOf c) = true := (isDigitByte_byteOf (by omega)).mpr hc
    have hvalue := toNat_digitByte hc
    have hweight := toNat_weightedWord doubled (hvalue ▸ digitValue_lt hc)
    rw [hvalue] at hweight
    have hlt := weighted_lt doubled (digitValue_lt hc)
    rw [List.length_cons] at hroom
    have hadd : (acc + weightedWord doubled (byteOf c - 0x30).toUInt32).toNat =
        acc.toNat + weighted doubled (digitValue c) := by
      rw [UInt32.toNat_add, hweight]
      exact Nat.mod_eq_of_lt (by change _ < UInt32.size; omega)
    obtain ⟨sum', hrun, hsum⟩ := ih (!doubled)
      (acc + weightedWord doubled (byteOf c - 0x30).toUInt32) h.tail (by omega)
    refine ⟨sum', ?_, ?_⟩
    · rw [List.map_cons, wordSum?, if_pos hbyte, hrun]
    · rw [hsum, hadd, sum, Nat.add_assoc]

theorem wordSum?_eq_none (doubled : Bool) (acc : UInt32) {bytes : List UInt8}
    (h : ∃ b ∈ bytes, isDigitByte b = false) : wordSum? doubled acc bytes = none := by
  induction bytes generalizing doubled acc with
  | nil =>
    obtain ⟨b, hb, -⟩ := h
    cases hb
  | cons a bytes ih =>
    rw [wordSum?]
    split
    · rename_i ha
      obtain ⟨b, hb, hno⟩ := h
      rcases List.mem_cons.mp hb with rfl | hb
      · rw [ha] at hno
        cases hno
      · exact ih _ _ ⟨b, hb, hno⟩
    · rfl

/-! ## Check digits -/

theorem checkDigit?_eq_none {s : String} (h : ¬ (s ≠ "" ∧ AllDigits s.toList)) :
    checkDigit? s = none := by
  have hcond : (!s.toList.isEmpty && s.toList.all Char.isDigit) ≠ true := by
    intro htrue
    have hboth := isDigits_iff.mp htrue
    exact h ⟨fun hs => hboth.1 (by rw [hs]; rfl), hboth.2⟩
  exact if_neg hcond

theorem checkDigitWord?_eq_none {s : String} (h : ¬ (s ≠ "" ∧ AllDigits s.toList)) :
    checkDigitWord? s = none := by
  unfold checkDigitWord?
  dsimp only
  split
  · rfl
  · rename_i hbytes
    have hne : s ≠ "" := by
      rintro rfl
      exact hbytes rfl
    obtain ⟨b, hb, hno⟩ := exists_not_isDigitByte fun hall => h ⟨hne, hall⟩
    have hrev : b ∈ (Utf8.encodeText s).reverse := List.mem_reverse.mpr hb
    rw [wordSum?_eq_none true 0 ⟨b, hrev, hno⟩, Option.map_none]

theorem toNat_complementWord (sum' : UInt32) :
    ((10 - sum' % 10) % 10).toUInt8.toNat = (10 - sum'.toNat % 10) % 10 := by
  have hmod : (sum' % 10).toNat = sum'.toNat % 10 := UInt32.toNat_mod ..
  have hle : sum' % 10 ≤ 10 := by
    rw [UInt32.le_iff_toNat_le, hmod]
    exact Nat.le_of_lt (Nat.mod_lt _ (by decide))
  rw [UInt32.toNat_toUInt8, UInt32.toNat_mod, UInt32.toNat_sub_of_le _ _ hle, hmod]
  exact Nat.mod_eq_of_lt (Nat.lt_trans (Nat.mod_lt _ (by decide)) (by decide))

theorem checkDigitWord?_eq {s : String} (hne : s ≠ "") (h : AllDigits s.toList)
    (hlen : s.toList.length ≤ wordDigits) :
    (checkDigitWord? s).map UInt8.toNat = some (complement s.toList) := by
  have hbytes : Utf8.encodeText s = s.toList.map byteOf := encode_of_allDigits h
  have hcond : (Utf8.encodeText s).isEmpty ≠ true := by
    rw [hbytes, ne_eq, List.isEmpty_iff, List.map_eq_nil_iff, String.toList_eq_nil_iff]
    exact hne
  obtain ⟨sum', hrun, hsum⟩ := wordSum?_eq true 0 h.reverse (by
    rw [List.length_reverse]
    unfold wordDigits at hlen
    change 0 + _ < 4294967296
    omega)
  have hword : checkDigitWord? s = some ((10 - sum' % 10) % 10).toUInt8 := by
    unfold checkDigitWord?
    dsimp only
    rw [if_neg hcond, hbytes, ← List.map_reverse, hrun, Option.map_some]
  rw [hword, Option.map_some, toNat_complementWord, hsum]
  change some ((10 - (0 + _) % 10) % 10) = _
  rw [Nat.zero_add, complement]

/-- Up to `wordDigits` bytes, it makes no difference that the sum is kept in a word. -/
theorem checkDigit?_eq_word {s : String} (h : s.utf8ByteSize ≤ wordDigits) :
    checkDigit? s = (checkDigitWord? s).map UInt8.toNat := by
  by_cases hs : s ≠ "" ∧ AllDigits s.toList
  · have hne : s.toList ≠ [] := fun hnil => hs.1 (String.toList_eq_nil_iff.mp hnil)
    rw [checkDigit?_eq hne hs.2,
      checkDigitWord?_eq hs.1 hs.2 (Nat.le_trans (length_le_utf8ByteSize s) h)]
  · rw [checkDigit?_eq_none hs, checkDigitWord?_eq_none hs, Option.map_none]

/-- No sum over digits at the end of the text is too large for a word. -/
theorem sum_lt_of_suffix {s : String} (h : s.utf8ByteSize ≤ wordDigits) {t : List Char}
    (ht : t <:+ s.toList) (hd : AllDigits t) : sum true t.reverse < UInt32.size := by
  refine sum_lt_of_length_le true hd.reverse ?_
  rw [List.length_reverse]
  exact Nat.le_trans ht.length_le (Nat.le_trans (length_le_utf8ByteSize s) h)

end Provisioning.Luhn

namespace Provisioning.Batch
open Decimal

/-! ## ICCIDs -/

theorem isIccid_iff {s : String} :
    IsIccid s ↔ AllDigits s.toList ∧
      (s.toList.length = 18 ∨ s.toList.length = 19 ∧ Luhn.IsValid s.toList) := by
  constructor
  · rintro ⟨hd, hn | ⟨p, c, hs, hp, -, hvalid⟩⟩
    · exact ⟨hd, Or.inl hn⟩
    · refine ⟨hd, Or.inr ⟨?_, hs ▸ hvalid⟩⟩
      rw [hs, List.length_append, hp]
      rfl
  · rintro ⟨hd, hn | ⟨hn, hvalid⟩⟩
    · exact ⟨hd, Or.inl hn⟩
    · obtain ⟨p, c, hs⟩ : ∃ p c, s.toList = p ++ [c] :=
        ⟨_, _, (List.dropLast_concat_getLast (List.ne_nil_of_length_pos (by omega))).symm⟩
      have hp : p.length = 18 := by
        rw [hs, List.length_append, List.length_singleton] at hn
        omega
      exact ⟨hd, Or.inr ⟨p, c, hs, hp, hd c (by rw [hs]; simp), hs ▸ hvalid⟩⟩

end Provisioning.Batch

namespace Provisioning.Luhn
open Decimal Batch

theorem toList_push_digitChar (p : String) (d : Nat) :
    (p.push (Nat.digitChar d)).toList = p.toList ++ [Nat.digitChar d] := String.toList_push _

/-- Of the ten texts with one more digit than a payload, its check digit gives the one that is an
ICCID. -/
theorem isIccid_push_iff {p : String} (hd : AllDigits p.toList) (hp : p.toList.length = 18)
    {d : Nat} (h : d < 10) :
    IsIccid (p.push (Nat.digitChar d)) ↔ d = complement p.toList := by
  have hdigit := isDigit_digitChar_of_lt h
  have hall : AllDigits (p.toList ++ [Nat.digitChar d]) := hd.concat hdigit
  have hlen : (p.push (Nat.digitChar d)).toList.length = 19 := by
    rw [toList_push_digitChar, List.length_append, hp]
    rfl
  have hcheck : IsIccid (p.push (Nat.digitChar d)) ↔ IsCheckDigit p.toList (Nat.digitChar d) := by
    rw [isIccid_iff, hlen, toList_push_digitChar]
    constructor
    · rintro ⟨-, hn | ⟨-, hvalid⟩⟩
      · omega
      · exact ⟨hdigit, hvalid⟩
    · rintro ⟨-, hvalid⟩
      exact ⟨hall, Or.inr ⟨rfl, hvalid⟩⟩
  rw [hcheck, isCheckDigit_iff hd]
  constructor
  · intro heq
    have hval := congrArg digitValue heq
    rwa [digitValue_digitChar h, digitValue_digitChar (complement_lt _)] at hval
  · rintro rfl
    rfl

theorem append?_payload {p : String} (hd : AllDigits p.toList) (hp : p.toList.length = 18) :
    append? p = some (p.push (Nat.digitChar (complement p.toList))) ∧
      payload (p.push (Nat.digitChar (complement p.toList))) = p := by
  have hpush : p.push (Nat.digitChar (complement p.toList)) = String.ofList (completed p.toList) := by
    rw [← String.toList_inj, toList_push_digitChar, String.toList_ofList]
    rfl
  have happend := append?_ofList (List.ne_nil_of_length_pos (by omega)) hd
  have hpayload := payload_completed hd hp
  rw [String.ofList_toList] at happend hpayload
  rw [hpush]
  exact ⟨happend, hpayload⟩

/-- Up to `wordDigits` bytes no sum overflows, and the check digit of a text of digits is the one
digit with which it passes the Luhn test; other texts have none. An ICCID has 18 digits, or 19 that
pass the test; so of the ten with one payload, the one with its check digit is accepted. -/
theorem checkDigit_completes :
    (∀ s : String, s.utf8ByteSize ≤ wordDigits →
      (∀ t, t <:+ s.toList → AllDigits t → sum true t.reverse < UInt32.size) ∧
      checkDigit? s = (checkDigitWord? s).map UInt8.toNat ∧
      (s ≠ "" → AllDigits s.toList → ∃ d, d < 10 ∧ checkDigit? s = some d ∧
        ∀ c, IsCheckDigit s.toList c ↔ c = Nat.digitChar d) ∧
      (¬ (s ≠ "" ∧ AllDigits s.toList) → checkDigit? s = none)) ∧
    (∀ label raw : String, (∃ a, Field.iccid label raw = .ok a) ↔
      AllDigits raw.toList ∧
        (raw.toList.length = 18 ∨ raw.toList.length = 19 ∧ IsValid raw.toList)) ∧
    (∀ p : String, AllDigits p.toList → p.toList.length = 18 →
      ∃ d, d < 10 ∧ append? p = some (p.push (Nat.digitChar d)) ∧
        payload (p.push (Nat.digitChar d)) = p ∧
        ∀ label, ∀ d' < 10,
          (∃ a, Field.iccid label (p.push (Nat.digitChar d')) = .ok a) ↔ d' = d) := by
  refine ⟨?_, ?_, ?_⟩
  · intro s hs
    refine ⟨fun t => sum_lt_of_suffix hs, checkDigit?_eq_word hs, ?_, checkDigit?_eq_none⟩
    intro hne hd
    have hnil : s.toList ≠ [] := fun hnil => hne (String.toList_eq_nil_iff.mp hnil)
    exact ⟨complement s.toList, complement_lt _, checkDigit?_eq hnil hd,
      fun c => isCheckDigit_iff hd⟩
  · intro label raw
    rw [Field.iccid_accepts_iff, isIccid_iff]
  · intro p hd hp
    obtain ⟨happend, hpayload⟩ := append?_payload hd hp
    refine ⟨complement p.toList, complement_lt _, happend, hpayload, ?_⟩
    intro label d' hlt
    rw [Field.iccid_accepts_iff, isIccid_push_iff hd hp hlt]

theorem checkDigit_completes_sample :
    (∀ c, IsCheckDigit "7992739871".toList c ↔ c = '3') ∧ checkDigit? "89a" = none ∧
    append? "890100000000000000" = some "8901000000000000001" ∧
    payload "8901000000000000001" = "890100000000000000" ∧
    ¬ ∃ a, Field.iccid "first-iccid" "8901000000000000002" = .ok a := by
  obtain ⟨hdigit, -, hpayload⟩ := checkDigit_completes
  obtain ⟨-, -, hsome, -⟩ := hdigit "7992739871" (by decide)
  obtain ⟨-, -, -, hnone⟩ := hdigit "89a" (by decide)
  obtain ⟨d, -, hd, hunique⟩ := hsome (by decide) (isDigits_iff.mp rfl).2
  obtain rfl : 3 = d := Option.some.inj hd
  obtain ⟨d, -, happend, hback, honly⟩ :=
    hpayload "890100000000000000" (isDigits_iff.mp rfl).2 rfl
  obtain rfl : 1 = d := (honly "first-iccid" 1 (by decide)).mp ⟨_, rfl⟩
  have hletter : ¬ AllDigits "89a".toList := fun h => absurd (h 'a' (by decide)) (by decide)
  exact ⟨hunique, hnone (fun h => hletter h.2), happend, hback,
    fun h => absurd ((honly "first-iccid" 2 (by decide)).mp h) (by decide)⟩

end Provisioning.Luhn
