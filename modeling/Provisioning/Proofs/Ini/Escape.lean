import Provisioning.Ini.Lexeme
import Provisioning.Ini.Writer
/-!
# Escaped texts

* `IsRaw` : a character that is written as it is;
* `reread` : the character that is read back for one; two are not read back as themselves;
* `escape_cases` : how a character is written;
* `readUntil_escaped` : reading over an escaped text gives the characters that are read back.
-/

namespace Provisioning.Ini
open Text

/-! ## One character -/

def IsRaw (c : Char) : Prop := escape c = [c]

instance (c : Char) : Decidable (IsRaw c) := inferInstanceAs (Decidable (escape c = [c]))

/-- The character that is read back for one. -/
def reread (c : Char) : Char :=
  if c = '\x0b' then 'v' else if c = '\x0c' then 'f' else c

theorem reread_eq_self {c : Char} (hv : c ≠ '\x0b') (hf : c ≠ '\x0c') : reread c = c := by
  rw [reread, if_neg hv, if_neg hf]

/-- The characters that a backslash and a letter stand for. -/
def lettered : List Char := ['\\', '\x00', '\x07', '\x08', '\t', '\n', '\x0b', '\x0c', '\r']

theorem escape_cases (c : Char) :
    (IsRaw c ∧ c ≠ '\\' ∧ isLineEnd c = false ∧ reread c = c) ∨
      (∃ e, escape c = ['\\', e] ∧ e ≠ '\n' ∧ e ≠ 'x' ∧ unescape e = reread c) ∨
      (escape c = ['\\', 'x'] ++ Hex.fixed 4 c.toNat ∧ c.toNat < 128 ∧ reread c = c) := by
  by_cases hletter : c ∈ lettered
  · right; left
    simp only [lettered, List.mem_cons, List.not_mem_nil, or_false] at hletter
    rcases hletter with rfl | rfl | rfl | rfl | rfl | rfl | rfl | rfl | rfl <;>
      exact ⟨_, rfl, by decide, by decide, by decide⟩
  · simp only [lettered, List.mem_cons, List.not_mem_nil, or_false, not_or] at hletter
    obtain ⟨h₁, h₂, h₃, h₄, h₅, h₆, h₇, h₈, h₉⟩ := hletter
    have hread : reread c = c := reread_eq_self h₇ h₈
    have hescape : escape c =
        if c.toNat < 0x20 || c.toNat == 0x7F then ['\\', 'x'] ++ Hex.fixed 4 c.toNat else [c] := by
      rw [escape, if_neg h₁, if_neg h₂, if_neg h₃, if_neg h₄, if_neg h₅, if_neg h₆, if_neg h₇,
        if_neg h₈, if_neg h₉]
    by_cases hcode : (c.toNat < 0x20 || c.toNat == 0x7F) = true
    · rw [if_pos hcode] at hescape
      refine .inr (.inr ⟨hescape, ?_, hread⟩)
      rw [Bool.or_eq_true, decide_eq_true_eq, beq_iff_eq] at hcode
      omega
    · rw [if_neg hcode] at hescape
      refine .inl ⟨hescape, h₁, ?_, hread⟩
      rw [isLineEnd, Bool.or_eq_false_iff, beq_eq_false_iff_ne, beq_eq_false_iff_ne]
      exact ⟨h₆, h₉⟩

theorem isRaw_or_escaped (c : Char) :
    (IsRaw c ∧ isLineEnd c = false) ∨ (¬ IsRaw c ∧ ∃ es, escape c = '\\' :: es) := by
  rcases escape_cases c with ⟨hraw, -, hend, -⟩ | ⟨e, he, -⟩ | ⟨he, -⟩
  · exact .inl ⟨hraw, hend⟩
  · refine .inr ⟨fun hraw => ?_, _, he⟩
    rw [IsRaw, he] at hraw
    cases hraw
  · refine .inr ⟨fun hraw => ?_, _, he⟩
    rw [IsRaw, he] at hraw
    cases hraw

/-! ## Codes -/

theorem codePoint?_fixed {n : Nat} (h : n < 128) :
    codePoint? (Hex.fixed 4 n) = some (Char.ofNat n) := by
  revert n
  decide

theorem readCode_append {code digits rest : List Char} {fresh : Bool} {x : Char}
    (hdigits : ∀ c ∈ digits, c ≠ '\\') (hne : digits ≠ [])
    (hcode : codePoint? (code ++ digits) = some x) :
    readCode code digits.length ⟨digits ++ rest, fresh⟩ = .ok (x, rest) := by
  induction digits generalizing code fresh with
  | nil => exact absurd rfl hne
  | cons c digits ih =>
    rw [List.length_cons, List.cons_append, readCode.eq_def]
    dsimp only
    rw [if_neg (hdigits c List.mem_cons_self)]
    rcases digits with - | ⟨d, digits⟩
    · rw [List.length_nil, if_pos rfl, hcode]
      rfl
    · rw [List.length_cons, if_neg (Nat.succ_ne_zero _), ← List.length_cons]
      refine ih (fun c hc => hdigits c (List.mem_cons_of_mem _ hc)) (List.cons_ne_nil _ _) ?_
      rw [List.append_assoc]
      exact hcode

theorem readCode_fixed {c : Char} (hc : c.toNat < 128) (rest : List Char) :
    readCode [] 4 ⟨Hex.fixed 4 c.toNat ++ rest, false⟩ = .ok (c, rest) := by
  have hall : ∀ n < 128, (Hex.fixed 4 n).all (· != '\\') = true := by decide
  have hdigits : ∀ d ∈ Hex.fixed 4 c.toNat, d ≠ '\\' := fun d hd =>
    bne_iff_ne.mp (List.all_eq_true.mp (hall _ hc) d hd)
  have hcode := codePoint?_fixed hc
  rw [Char.ofNat_toNat] at hcode
  exact readCode_append hdigits (List.cons_ne_nil _ _) hcode

/-! ## Reading over escaped texts -/

variable {stop : Stop} {front : List Char}

theorem readUntil_of_stop {c : Char} (hc : stop.isStop c = true) (rest : List Char) :
    readUntil stop front (c :: rest) = .ok (front.reverse, c :: rest) := by
  rw [readUntil.eq_def]
  simp only [hc, if_true]

theorem readUntil_raw {c : Char} (hc : stop.isStop c = false) (hne : c ≠ '\\')
    (rest : List Char) : readUntil stop front (c :: rest) = readUntil stop (c :: front) rest := by
  rw [readUntil.eq_def]
  simp only [hc, hne, Bool.false_eq_true, if_false]

theorem readUntil_letter {e : Char} (hstop : stop.isStop '\\' = false) (hn : e ≠ '\n')
    (hx : e ≠ 'x') (rest : List Char) :
    readUntil stop front ('\\' :: e :: rest) = readUntil stop (unescape e :: front) rest := by
  rw [readUntil.eq_def]
  simp only [hstop, hn, hx, Bool.false_eq_true, if_false, if_true]

theorem readUntil_code {x : Char} {rest rest' : List Char} (hstop : stop.isStop '\\' = false)
    (hcode : readCode [] 4 ⟨rest, false⟩ = .ok (x, rest')) :
    readUntil stop front ('\\' :: 'x' :: rest) = readUntil stop (x :: front) rest' := by
  rw [readUntil.eq_def]
  simp only [hstop, Bool.false_eq_true, if_false, if_true, Char.reduceEq]
  split
  · rename_i h
    rw [hcode] at h
    cases h
    rfl
  · rename_i h
    rw [hcode] at h
    cases h

theorem readUntil_append {s : List Char} (hs : ∀ c ∈ s, stop.isStop c = false ∧ c ≠ '\\')
    (rest : List Char) :
    readUntil stop front (s ++ rest) = readUntil stop (s.reverse ++ front) rest := by
  induction s generalizing front with
  | nil => rfl
  | cons c s ih =>
    obtain ⟨hstop, hne⟩ := hs c List.mem_cons_self
    rw [List.cons_append, readUntil_raw hstop hne, ih fun d hd => hs d (List.mem_cons_of_mem c hd),
      List.reverse_cons, List.append_assoc]
    rfl

theorem readUntil_escape (hstop : stop.isStop '\\' = false) {c : Char}
    (hc : IsRaw c → stop.isStop c = false) (rest : List Char) :
    readUntil stop front (escape c ++ rest) = readUntil stop (reread c :: front) rest := by
  rcases escape_cases c with ⟨hraw, hne, -, hread⟩ | ⟨e, he, hn, hx, hread⟩ | ⟨he, hlt, hread⟩
  · rw [hread, hraw]
    exact readUntil_raw (hc hraw) hne rest
  · rw [he, ← hread]
    exact readUntil_letter hstop hn hx rest
  · rw [he, hread, List.append_assoc]
    exact readUntil_code hstop (readCode_fixed hlt rest)

theorem readUntil_escaped (hstop : stop.isStop '\\' = false) {v : List Char}
    (hv : ∀ c ∈ v, IsRaw c → stop.isStop c = false) (rest : List Char) :
    readUntil stop front (v.flatMap escape ++ rest) =
      readUntil stop ((v.map reread).reverse ++ front) rest := by
  induction v generalizing front with
  | nil => rfl
  | cons c v ih =>
    rw [List.flatMap_cons, List.append_assoc, readUntil_escape hstop (hv c List.mem_cons_self),
      ih fun d hd => hv d (List.mem_cons_of_mem c hd), List.map_cons, List.reverse_cons,
      List.append_assoc]
    rfl

end Provisioning.Ini
