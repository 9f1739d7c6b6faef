import Provisioning.Text.Blank
import Provisioning.Text.Hex
/-!
# The parts of a settings document

* `Place` : where reading goes on;
* `skipBlanks` : the blanks between the parts; a line that starts with a space or tab is indented;
* `readCode` : a character written as four hexadecimal digits;
* `readUntil` : characters up to one that stops them, escapes resolved;
* `readValue` : quoted parts and the rest of the line behind a separator.

A backslash escapes the next character. No reader gives back more than it was given.
-/

namespace Provisioning.Ini
open Text

def isIndent (c : Char) : Bool := c == ' ' || c == '\t'

def isLineEnd (c : Char) : Bool := c == '\n' || c == '\r'

/-- Where reading goes on, and whether a line starts there. -/
structure Place where
  rest : List Char
  isFresh : Bool

/-- Leaves out blanks; behind the end of a line, it stops in front of a space or tab. -/
def skipBlanks : Place → Place
  | ⟨[], fresh⟩ => ⟨[], fresh⟩
  | ⟨c :: r, fresh⟩ =>
    if isBlank c then
      if isLineEnd c && r.head?.any isIndent then ⟨r, c == '\n'⟩
      else skipBlanks ⟨r, c == '\n'⟩
    else ⟨c :: r, fresh⟩
  termination_by p => p.rest.length

theorem length_skipBlanks_le (p : Place) : (skipBlanks p).rest.length ≤ p.rest.length := by
  fun_induction skipBlanks p with
  | case1 => simp
  | case2 => simp
  | case3 c r _ _ _ ih => exact Nat.le_trans ih (by simp)
  | case4 => simp

/-! ## Escapes -/

def unescape : Char → Char
  | '0' => '\x00'
  | 'a' => '\x07'
  | 'b' => '\x08'
  | 't' => '\t'
  | 'r' => '\r'
  | 'n' => '\n'
  | c => c

/-- The character that four hexadecimal digits name; a plus sign may stand for the first. -/
def codePoint? (code : List Char) : Option Char :=
  let digits := if code.head? = some '+' then code.tail else code
  (Hex.value? 16 digits).bind fun n => if n.isValidChar then some (Char.ofNat n) else none

/-- Reads `n` more characters of a code; a backslash among them counts only at the end of a line.
Where it fails, reading can go on in front of the character at fault. -/
def readCode (code : List Char) : Nat → Place → Except Place (Char × List Char)
  | 0, p => .error p
  | _, ⟨[], fresh⟩ => .error ⟨[], fresh⟩
  | n + 1, ⟨c :: r, fresh⟩ =>
    if c = '\\' then
      match r with
      | '\n' :: r =>
        if n = 0 then .error ⟨'\n' :: r, false⟩ else readCode (code ++ [c]) n ⟨r, true⟩
      | r => .error ⟨r, false⟩
    else if n = 0 then
      match codePoint? (code ++ [c]) with
      | some x => .ok (x, r)
      | none => .error ⟨c :: r, fresh⟩
    else readCode (code ++ [c]) n ⟨r, c == '\n'⟩

theorem length_readCode_le {code : List Char} {n : Nat} {p : Place} {x : Char} {r : List Char}
    (h : readCode code n p = .ok (x, r)) : r.length ≤ p.rest.length := by
  fun_induction readCode code n p with
  | case1 => simp at h
  | case2 => simp at h
  | case3 => simp at h
  | case4 n fresh code r hn ih =>
    have := ih h
    simp at this ⊢
    omega
  | case5 => simp at h
  | case6 code fresh c r _ x y =>
    simp only [Except.ok.injEq, Prod.mk.injEq] at h
    simp [h.2]
  | case7 => simp at h
  | case8 n code fresh c r _ _ ih =>
    have := ih h
    simp at this ⊢
    omega

/-- Where characters stop: in front of one of a kind, and at the end of the text if that is
allowed. -/
structure Stop where
  isStop : Char → Bool
  atEnd : Bool

/-- Adds the characters up to the stop to `front`, which is given from right to left. -/
def readUntil (stop : Stop) (front s : List Char) : Except Place (List Char × List Char) :=
  match s with
  | [] => if stop.atEnd then .ok (front.reverse, []) else .error ⟨[], false⟩
  | c :: r =>
    if stop.isStop c then .ok (front.reverse, c :: r)
    else if c = '\\' then
      match r with
      | [] => if stop.atEnd then .ok ((c :: front).reverse, []) else .error ⟨[], false⟩
      | e :: r =>
        if e = '\n' then readUntil stop front r
        else if e = 'x' then
          match h : readCode [] 4 ⟨r, false⟩ with
          | .ok (x, t) =>
            have := length_readCode_le h
            readUntil stop (x :: front) t
          | .error p => .error p
        else readUntil stop (unescape e :: front) r
    else readUntil stop (c :: front) r
  termination_by s.length
  decreasing_by all_goals (simp_all <;> omega)

theorem length_readUntil_le {stop : Stop} {front s t r : List Char}
    (h : readUntil stop front s = .ok (t, r)) : r.length ≤ s.length := by
  fun_induction readUntil stop front s <;> simp_all <;> omega

/-! ### What is left at a fault, and behind a character at least -/

theorem length_readCode_error_le {code : List Char} {n : Nat} {p q : Place}
    (h : readCode code n p = .error q) : q.rest.length ≤ p.rest.length := by
  fun_induction readCode code n p with
  | case1 => simp_all
  | case2 => simp only [Except.error.injEq] at h; simp [← h]
  | case3 => simp only [Except.error.injEq] at h; simp [← h]
  | case4 n fresh code r hn ih =>
    have := ih h
    simp at this ⊢
    omega
  | case5 => simp only [Except.error.injEq] at h; simp [← h]
  | case6 => simp at h
  | case7 => simp only [Except.error.injEq] at h; simp [← h]
  | case8 n code fresh c r _ _ ih =>
    have := ih h
    simp at this ⊢
    omega

theorem length_readUntil_error_le {stop : Stop} {front s : List Char} {q : Place}
    (h : readUntil stop front s = .error q) : q.rest.length ≤ s.length := by
  fun_induction readUntil stop front s with
  | case1 => simp at h
  | case2 => simp only [Except.error.injEq] at h; simp [← h]
  | case3 => simp at h
  | case4 => simp at h
  | case5 => simp only [Except.error.injEq] at h; simp [← h]
  | case6 front r _ ih =>
    have := ih h
    simp only [List.length_cons]
    omega
  | case7 front r x t _ hle _ _ ih =>
    have := ih h
    simp only [List.length_cons] at hle ⊢
    omega
  | case8 front r p hp =>
    have := length_readCode_error_le hp
    simp only [Except.error.injEq] at h
    simp only [← h, List.length_cons] at this ⊢
    omega
  | case9 front e r _ _ _ ih =>
    have := ih h
    simp only [List.length_cons]
    omega
  | case10 front e r _ _ ih =>
    have := ih h
    simp only [List.length_cons]
    omega

theorem length_readUntil_lt {stop : Stop} {front t r u : List Char} {c : Char}
    (hc : stop.isStop c = false) (h : readUntil stop front (c :: r) = .ok (t, u)) :
    u.length < (c :: r).length := by
  rw [readUntil.eq_def] at h
  simp only [hc, Bool.false_eq_true, if_false] at h
  split at h
  · split at h
    · split at h
      · simp_all
      · simp at h
    · split at h
      · have := length_readUntil_le h
        simp; omega
      · split at h
        · split at h
          · rename_i hcode
            have := length_readCode_le hcode
            have := length_readUntil_le h
            simp at *; omega
          · simp at h
        · have := length_readUntil_le h
          simp; omega
  · have := length_readUntil_le h
    simp; omega

/-! ## Values -/

def isQuote (c : Char) : Bool := c == '"' || c == '\''

/-- Adds the parts of a value to `front`. The last part is not quoted and ends with the line;
blanks at its end do not count, nor do those in front of it unless quoted parts come first. -/
def readParts (isFirst : Bool) (front s : List Char) : Except Place (List Char × List Char) :=
  match s with
  | [] => .ok (front, [])
  | q :: r =>
    if isQuote q then
      match h : readUntil ⟨(· == q), false⟩ [] r with
      | .error p => .error p
      | .ok (part, t) =>
        have := length_readUntil_le h
        readParts false (front ++ part) t.tail
    else
      (readUntil ⟨isLineEnd, true⟩ [] (q :: r)).map fun (part, t) =>
        (front ++ (if isFirst then trim part else trimEnd part), t)
  termination_by s.length
  decreasing_by simp_all; omega

theorem length_readParts_le {isFirst : Bool} {front s t r : List Char}
    (h : readParts isFirst front s = .ok (t, r)) : r.length ≤ s.length := by
  fun_induction readParts isFirst front s with
  | case1 => simp_all
  | case2 => simp_all
  | case3 isFirst front q r _ part t _ hle ih =>
    have := ih h
    simp at this ⊢
    omega
  | case4 isFirst front q r _ =>
    cases hu : readUntil ⟨isLineEnd, true⟩ [] (q :: r) with
    | error p => simp [hu, Except.map] at h
    | ok x =>
      have := length_readUntil_le hu
      simp [hu, Except.map] at h
      simp_all

/-- The value behind a separator, on the rest of its line. -/
def readValue (s : List Char) : Except Place (List Char × List Char) :=
  readParts true [] (s.dropWhile fun c => isBlank c && !isLineEnd c)

theorem length_readValue_le {s t r : List Char} (h : readValue s = .ok (t, r)) :
    r.length ≤ s.length :=
  Nat.le_trans (length_readParts_le h) (List.dropWhile_suffix _).length_le

end Provisioning.Ini
