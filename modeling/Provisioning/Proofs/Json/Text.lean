import Provisioning.Json.Decode
import Provisioning.Json.Value
import Provisioning.Proofs.Text.Utf8
/-!
# Strings between their quotes

* `bodyOf` : the bytes between the quotes of a string;
* `Escapes`, `escapes_escape` : how a character is written there: as it is, by a letter, or by its
  code point;
* `scanString_bodyOf` : such bytes are one token;
* `text_bodyOf` : they stand for the string.
-/

namespace Provisioning.Json
open Utf8

def bodyOf (s : String) : List UInt8 := encode (s.toList.flatMap escape)

/-! ## One character -/

/-- A byte that stands for itself. -/
def IsRaw (b : UInt8) : Prop := b ≠ 0x22 ∧ b ≠ 0x5C ∧ ¬ b < 0x20

/-- The ways to write a character between quotes. -/
inductive Escapes : Char → List UInt8 → Prop
  | raw {c : Char} (h : ∀ b ∈ String.utf8EncodeChar c, IsRaw b) :
      Escapes c (String.utf8EncodeChar c)
  | letter {c : Char} {e : UInt8} (hshort : isShortEscape e = true) (hne : e ≠ 0x75)
      (hc : String.utf8EncodeChar c = [shortEscape e]) : Escapes c [0x5C, e]
  | code {c : Char} {h l : UInt8} (hhex : [0x30, 0x30, h, l].all isHexDigit = true)
      (hvalue : hexValue [0x30, 0x30, h, l] = c.toNat) (hc : c.toNat < 0x20) :
      Escapes c [0x5C, 0x75, 0x30, 0x30, h, l]

theorem isRaw_of_not_special {c : Char} (hquote : c ≠ '"') (hback : c ≠ '\\')
    (hcontrol : ¬ c.toNat < 0x20) : ∀ b ∈ String.utf8EncodeChar c, IsRaw b := by
  intro b hb
  have hb22 : b = 0x22 → b.toNat = 0x22 := fun h => by rw [h]; rfl
  have hb5C : b = 0x5C → b.toNat = 0x5C := fun h => by rw [h]; rfl
  have hb20 : b < 0x20 ↔ b.toNat < 0x20 := UInt8.lt_iff_toNat_lt
  by_cases hascii : c.toNat < 128
  · rw [utf8EncodeChar_of_lt hascii, List.mem_singleton] at hb
    have hbn : b.toNat = c.toNat := by
      rw [hb, UInt8.toNat_ofNat', Nat.mod_eq_of_lt (by omega)]
    have h22 : c.toNat ≠ 0x22 := fun h => hquote (Char.toNat_inj.mp h)
    have h5C : c.toNat ≠ 0x5C := fun h => hback (Char.toNat_inj.mp h)
    refine ⟨fun h => ?_, fun h => ?_, fun h => ?_⟩
    · exact h22 (hbn ▸ hb22 h)
    · exact h5C (hbn ▸ hb5C h)
    · rw [hb20, hbn] at h
      exact hcontrol h
  · have hle := le_of_mem_utf8EncodeChar (Nat.le_of_not_lt hascii) hb
    refine ⟨fun h => ?_, fun h => ?_, fun h => ?_⟩
    · have := hb22 h
      omega
    · have := hb5C h
      omega
    · rw [hb20] at h
      omega

theorem hexValue_of_control {n : Nat} (h : n < 0x20) :
    ∃ x y, encode ['\\', 'u', '0', '0', Nat.digitChar (n / 16), Nat.digitChar (n % 16)] =
        [0x5C, 0x75, 0x30, 0x30, x, y] ∧
      [0x30, 0x30, x, y].all isHexDigit = true ∧ hexValue [0x30, 0x30, x, y] = n := by
  have hall : ∀ n < 0x20,
      encode ['\\', 'u', '0', '0', Nat.digitChar (n / 16), Nat.digitChar (n % 16)] =
        [0x5C, 0x75, 0x30, 0x30, UInt8.ofNat (Nat.digitChar (n / 16)).toNat,
          UInt8.ofNat (Nat.digitChar (n % 16)).toNat] ∧
      [0x30, 0x30, UInt8.ofNat (Nat.digitChar (n / 16)).toNat,
        UInt8.ofNat (Nat.digitChar (n % 16)).toNat].all isHexDigit = true ∧
      hexValue [0x30, 0x30, UInt8.ofNat (Nat.digitChar (n / 16)).toNat,
        UInt8.ofNat (Nat.digitChar (n % 16)).toNat] = n := by decide
  exact ⟨_, _, hall n h⟩

def lettered : List (Char × UInt8) :=
  [('"', 0x22), ('\\', 0x5C), ('\x08', 0x62), ('\x0c', 0x66), ('\n', 0x6E), ('\r', 0x72),
    ('\t', 0x74)]

theorem escapes_escape (c : Char) : Escapes c (encode (escape c)) := by
  by_cases hletter : c ∈ lettered.map (·.1)
  · have hall : ∀ p ∈ lettered, encode (escape p.1) = [0x5C, p.2] ∧ isShortEscape p.2 = true ∧
        p.2 ≠ 0x75 ∧ String.utf8EncodeChar p.1 = [shortEscape p.2] := by decide
    obtain ⟨p, hp, rfl⟩ := List.mem_map.mp hletter
    obtain ⟨hbytes, hshort, hne, hchar⟩ := hall p hp
    rw [hbytes]
    exact .letter hshort hne hchar
  · simp only [lettered, List.map_cons, List.map_nil, List.mem_cons, List.not_mem_nil, or_false,
      not_or] at hletter
    obtain ⟨h₁, h₂, h₃, h₄, h₅, h₆, h₇⟩ := hletter
    rw [escape, if_neg h₁, if_neg h₂, if_neg h₃, if_neg h₄, if_neg h₅, if_neg h₆, if_neg h₇]
    by_cases hcontrol : c.toNat < 0x20
    · obtain ⟨x, y, hbytes, hhex, hvalue⟩ := hexValue_of_control hcontrol
      rw [if_pos hcontrol, hbytes]
      exact .code hhex hvalue hcontrol
    · have hself : encode [c] = String.utf8EncodeChar c := List.flatMap_singleton _ _
      rw [if_neg hcontrol, hself]
      exact .raw (isRaw_of_not_special h₁ h₂ hcontrol)

/-! ## Scanning -/

theorem scanString_raw {b : UInt8} (hb : IsRaw b) (front rest : List UInt8) :
    scanString front (b :: rest) = scanString (b :: front) rest := by
  obtain ⟨hquote, hback, hcontrol⟩ := hb
  rw [scanString.eq_def]
  simp [hquote, hback, hcontrol]

theorem scanString_append_raw {bs : List UInt8} (hbs : ∀ b ∈ bs, IsRaw b)
    (front rest : List UInt8) :
    scanString front (bs ++ rest) = scanString (bs.reverse ++ front) rest := by
  induction bs generalizing front with
  | nil => rfl
  | cons b bs ih =>
    rw [List.cons_append, scanString_raw (hbs b List.mem_cons_self),
      ih fun x hx => hbs x (List.mem_cons_of_mem b hx), List.reverse_cons, List.append_assoc]
    rfl

/-- Scanning passes over a character. -/
theorem scanString_escapes {c : Char} {bs : List UInt8} (h : Escapes c bs)
    (front rest : List UInt8) :
    scanString front (bs ++ rest) = scanString (bs.reverse ++ front) rest := by
  cases h with
  | raw hraw => exact scanString_append_raw hraw front rest
  | @letter e hshort hne hc =>
    rw [List.cons_append, List.cons_append, List.nil_append, scanString.eq_def]
    simp [hshort, hne]
  | @code x y hhex hvalue hc =>
    simp only [List.cons_append, List.nil_append]
    rw [scanString.eq_def]
    simp [hhex]

theorem scanString_flatMap (cs : List Char) (front rest : List UInt8) :
    scanString front (encode (cs.flatMap escape) ++ rest) =
      scanString ((encode (cs.flatMap escape)).reverse ++ front) rest := by
  induction cs generalizing front with
  | nil => rfl
  | cons c cs ih =>
    rw [List.flatMap_cons, encode_append, List.append_assoc,
      scanString_escapes (escapes_escape c), ih, List.reverse_append, List.append_assoc]

theorem scanString_bodyOf (s : String) (rest : List UInt8) :
    scanString [] (bodyOf s ++ 0x22 :: rest) = (.string (bodyOf s), rest) := by
  rw [bodyOf, scanString_flatMap, scanString.eq_def]
  simp

/-! ## Reading -/

theorem unescape_raw {b : UInt8} (hb : IsRaw b) (f : Fault) (front rest : List UInt8) :
    unescape f front (b :: rest) = unescape f (b :: front) rest := by
  cases rest with
  | nil =>
    rw [unescape, unescape]
  | cons e rest =>
    have hback : (b == 0x5C) = false := beq_false_of_ne hb.2.1
    rw [unescape.eq_def]
    simp [hback]

theorem unescape_append_raw {bs : List UInt8} (hbs : ∀ b ∈ bs, IsRaw b) (f : Fault)
    (front rest : List UInt8) :
    unescape f front (bs ++ rest) = unescape f (bs.reverse ++ front) rest := by
  induction bs generalizing front with
  | nil => rfl
  | cons b bs ih =>
    rw [List.cons_append, unescape_raw (hbs b List.mem_cons_self),
      ih fun x hx => hbs x (List.mem_cons_of_mem b hx), List.reverse_cons, List.append_assoc]
    rfl

theorem escaped_code {c : Char} {x y : UInt8} (hvalue : hexValue [0x30, 0x30, x, y] = c.toNat)
    (hc : c.toNat < 0x20) (f : Fault) (rest : List UInt8) :
    escaped f (0x30 :: 0x30 :: x :: y :: rest) = .ok (c, rest) := by
  have hlow : isLowSurrogate c.toNat = false := by
    simp only [isLowSurrogate, Bool.and_eq_false_iff, decide_eq_false_iff_not]
    omega
  have hhigh : isHighSurrogate c.toNat = false := by
    simp only [isHighSurrogate, Bool.and_eq_false_iff, decide_eq_false_iff_not]
    omega
  simp [escaped, codeUnit?, hvalue, hlow, hhigh]

/-- Reading turns what is written for a character into its bytes. -/
theorem unescape_escapes {c : Char} {bs : List UInt8} (h : Escapes c bs) (f : Fault)
    (front rest : List UInt8) :
    unescape f front (bs ++ rest) =
      unescape f ((String.utf8EncodeChar c).reverse ++ front) rest := by
  cases h with
  | raw hraw => exact unescape_append_raw hraw f front rest
  | @letter e hshort hne hc =>
    rw [hc, List.cons_append, List.cons_append, List.nil_append, unescape.eq_def]
    simp [hne]
  | @code x y hhex hvalue hc =>
    simp only [List.cons_append, List.nil_append]
    rw [unescape.eq_def]
    simp only [beq_self_eq_true, if_true]
    split
    · rename_i g hg
      rw [escaped_code hvalue hc] at hg
      cases hg
    · rename_i z t hz
      rw [escaped_code hvalue hc] at hz
      cases hz
      rfl

theorem unescape_flatMap (cs : List Char) (f : Fault) (front : List UInt8) :
    unescape f front (encode (cs.flatMap escape)) = .ok (front.reverse ++ encode cs) := by
  induction cs generalizing front with
  | nil =>
    show unescape f front [] = .ok (front.reverse ++ [])
    rw [unescape, List.append_nil]
  | cons c cs ih =>
    rw [List.flatMap_cons, encode_append, unescape_escapes (escapes_escape c), ih, encode_cons,
      List.reverse_append, List.reverse_reverse, List.append_assoc]

theorem text_bodyOf (s : String) : text (bodyOf s) = .ok s := by
  unfold text bodyOf
  rw [unescape_flatMap]
  dsimp only [bind, Except.bind]
  rw [List.reverse_nil, List.nil_append, decode?_encode, String.ofList_toList]
  rfl

end Provisioning.Json
