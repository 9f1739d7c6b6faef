import Provisioning.Text.Hex
/-!
# JSON tokens

* `Fault` : why bytes are not the JSON that was expected;
* `Token` : a mark, a word, a number or a string as written; a broken token carries its fault and
  is the last one;
* `scanString`, `scanNumber`, `scanWord` : the tokens that need more than one byte;
* `tokens` : the tokens of a text.
-/

namespace Provisioning.Json

inductive Fault
  /-- The bytes end too early. -/
  | truncated
  /-- The bytes are not JSON. -/
  | malformed
  /-- The bytes are JSON of another shape. -/
  | wrongShape
  deriving DecidableEq, Repr

inductive Token
  | openObject
  | closeObject
  | openArray
  | closeArray
  | comma
  | colon
  | null
  | bool (b : Bool)
  | number (literal : List UInt8)
  /-- What stands between the quotes. -/
  | string (body : List UInt8)
  | brokenNumber (fault : Fault)
  /-- What stands between the quote and the fault. -/
  | brokenString (body : List UInt8) (fault : Fault)
  | broken (fault : Fault)
  deriving DecidableEq, Repr

def isSpace (b : UInt8) : Bool := b == 0x20 || b == 0x09 || b == 0x0A || b == 0x0D

def isDigit (b : UInt8) : Bool := 0x30 ≤ b && b ≤ 0x39

def isHexDigit (b : UInt8) : Bool := Hex.isDigit 16 (Char.ofNat b.toNat)

/-! ## Strings -/

/-- What may follow a backslash, the escape by code point apart. -/
def isShortEscape (b : UInt8) : Bool :=
  [0x22, 0x5C, 0x2F, 0x62, 0x66, 0x6E, 0x72, 0x74].contains b

/-- Reads a string behind its quote; `front` is its body so far, from right to left. -/
def scanString (front s : List UInt8) : Token × List UInt8 :=
  match s with
  | [] => (.brokenString front.reverse .truncated, [])
  | c :: r =>
    if c == 0x22 then (.string front.reverse, r)
    else if c == 0x5C then
      match r with
      | [] => (.brokenString front.reverse .truncated, [])
      | e :: r =>
        if e == 0x75 then
          match r with
          | x :: y :: z :: w :: r =>
            if [x, y, z, w].all isHexDigit then
              scanString (w :: z :: y :: x :: e :: c :: front) r
            else (.brokenString front.reverse .malformed, [])
          | _ => (.brokenString front.reverse .truncated, [])
        else if isShortEscape e then scanString (e :: c :: front) r
        else (.brokenString front.reverse .malformed, [])
    else if c < 0x20 then (.brokenString front.reverse .malformed, [])
    else scanString (c :: front) r

theorem length_scanString_le (front s : List UInt8) :
    (scanString front s).2.length ≤ s.length := by
  fun_induction scanString front s with
  | case1 => exact Nat.zero_le _
  | case2 => exact Nat.le_succ _
  | case3 => exact Nat.zero_le _
  | case4 front c _ _ e _ x y z w r _ ih =>
    simp only [List.length_cons]
    omega
  | case5 => exact Nat.zero_le _
  | case6 => exact Nat.zero_le _
  | case7 front c _ _ e r _ _ ih =>
    simp only [List.length_cons]
    omega
  | case8 => exact Nat.zero_le _
  | case9 => exact Nat.zero_le _
  | case10 front c r _ _ _ ih =>
    simp only [List.length_cons]
    omega

/-! ## Numbers -/

def scanDigits (front s : List UInt8) : Except Fault (List UInt8 × List UInt8) :=
  match s with
  | [] => .error .truncated
  | d :: r =>
    if isDigit d then .ok (front ++ d :: r.takeWhile isDigit, r.dropWhile isDigit)
    else .error .malformed

/-- The whole part: no zero stands in front of another digit. -/
def scanWhole (front s : List UInt8) : Except Fault (List UInt8 × List UInt8) := do
  let (literal, r) ← scanDigits front s
  if s.head? == some 0x30 && front.length + 1 < literal.length then throw .malformed
  return (literal, r)

def scanFraction (front s : List UInt8) : Except Fault (List UInt8 × List UInt8) :=
  match s with
  | 0x2E :: r => scanDigits (front ++ [0x2E]) r
  | s => .ok (front, s)

def scanExponent (front s : List UInt8) : Except Fault (List UInt8 × List UInt8) :=
  match s with
  | e :: r =>
    if e == 0x65 || e == 0x45 then
      match r with
      | sign :: t =>
        if sign == 0x2B || sign == 0x2D then scanDigits (front ++ [e, sign]) t
        else scanDigits (front ++ [e]) r
      | [] => .error .truncated
    else .ok (front, e :: r)
  | [] => .ok (front, [])

def scanParts (front s : List UInt8) : Except Fault (List UInt8 × List UInt8) := do
  let (literal, r) ← scanWhole front s
  let (literal, r) ← scanFraction literal r
  scanExponent literal r

def scanNumber (s : List UInt8) : Token × List UInt8 :=
  let parts := match s with
    | 0x2D :: r => scanParts [0x2D] r
    | s => scanParts [] s
  match parts with
  | .ok (literal, r) => (.number literal, r)
  | .error f => (.brokenNumber f, [])

theorem length_scanDigits_lt {front s l r : List UInt8} (h : scanDigits front s = .ok (l, r)) :
    r.length < s.length := by
  unfold scanDigits at h
  split at h
  · simp at h
  · rename_i d t
    split at h
    · simp only [Except.ok.injEq, Prod.mk.injEq] at h
      have := (List.dropWhile_suffix isDigit (l := t)).length_le
      simp only [← h.2, List.length_cons]
      omega
    · simp at h

theorem length_scanWhole_lt {front s l r : List UInt8} (h : scanWhole front s = .ok (l, r)) :
    r.length < s.length := by
  unfold scanWhole at h
  cases hd : scanDigits front s with
  | error f => simp [hd, bind, Except.bind] at h
  | ok x =>
    have := length_scanDigits_lt hd
    simp only [hd, bind, Except.bind] at h
    split at h
    · simp [throw, throwThe, MonadExceptOf.throw] at h
    · simp only [pure, Except.pure, Except.ok.injEq, Prod.mk.injEq] at h
      simpa only [← h.2] using this

theorem length_scanFraction_le {front s l r : List UInt8} (h : scanFraction front s = .ok (l, r)) :
    r.length ≤ s.length := by
  unfold scanFraction at h
  split at h
  · have := length_scanDigits_lt h
    simp only [List.length_cons]
    omega
  · simp only [Except.ok.injEq, Prod.mk.injEq] at h
    simp [h.2]

theorem length_scanExponent_le {front s l r : List UInt8} (h : scanExponent front s = .ok (l, r)) :
    r.length ≤ s.length := by
  unfold scanExponent at h
  split at h
  · split at h
    · split at h
      · split at h <;>
        · have := length_scanDigits_lt h
          simp only [List.length_cons] at this ⊢
          omega
      · simp at h
    · simp only [Except.ok.injEq, Prod.mk.injEq] at h
      simp [← h.2]
  · simp only [Except.ok.injEq, Prod.mk.injEq] at h
    simp [← h.2]

theorem length_scanParts_lt {front s l r : List UInt8} (h : scanParts front s = .ok (l, r)) :
    r.length < s.length := by
  unfold scanParts at h
  cases hw : scanWhole front s with
  | error f => simp [hw, bind, Except.bind] at h
  | ok x =>
    cases hf : scanFraction x.1 x.2 with
    | error f => simp [hw, hf, bind, Except.bind] at h
    | ok y =>
      simp only [hw, hf, bind, Except.bind] at h
      have := length_scanWhole_lt hw
      have := length_scanFraction_le hf
      have := length_scanExponent_le h
      omega

theorem length_scanNumber_lt (c : UInt8) (r : List UInt8) :
    (scanNumber (c :: r)).2.length < (c :: r).length := by
  unfold scanNumber
  simp only
  split
  · rename_i h
    split at h
    · rename_i t heq
      have := length_scanParts_lt h
      have := congrArg List.length heq
      simp only [List.length_cons] at this ⊢
      omega
    · exact length_scanParts_lt h
  · simp

/-! ## Words -/

def scanWord (t : Token) (word s : List UInt8) : Token × List UInt8 :=
  match word, s with
  | [], s => (t, s)
  | _ :: _, [] => (.broken .truncated, [])
  | w :: ws, c :: r => if c == w then scanWord t ws r else (.broken .malformed, [])

theorem length_scanWord_le (t : Token) (word s : List UInt8) :
    (scanWord t word s).2.length ≤ s.length := by
  fun_induction scanWord t word s <;> (simp_all; try omega)

/-! ## Texts -/

def mark? (c : UInt8) : Option Token :=
  if c == 0x7B then some .openObject
  else if c == 0x7D then some .closeObject
  else if c == 0x5B then some .openArray
  else if c == 0x5D then some .closeArray
  else if c == 0x2C then some .comma
  else if c == 0x3A then some .colon
  else none

def scanLetters (c : UInt8) (r : List UInt8) : Token × List UInt8 :=
  if c == 0x6E then scanWord .null [0x75, 0x6C, 0x6C] r
  else if c == 0x74 then scanWord (.bool true) [0x72, 0x75, 0x65] r
  else if c == 0x66 then scanWord (.bool false) [0x61, 0x6C, 0x73, 0x65] r
  else (.broken .malformed, [])

def scan (c : UInt8) (r : List UInt8) : Token × List UInt8 :=
  match mark? c with
  | some t => (t, r)
  | none =>
    if c == 0x22 then scanString [] r
    else if c == 0x2D || isDigit c then scanNumber (c :: r)
    else scanLetters c r

theorem length_scanLetters_le (c : UInt8) (r : List UInt8) :
    (scanLetters c r).2.length ≤ r.length :=
  iteInduction (motive := fun x : Token × List UInt8 => x.2.length ≤ r.length)
    (fun _ => length_scanWord_le _ _ r) fun _ =>
  iteInduction (motive := fun x : Token × List UInt8 => x.2.length ≤ r.length)
    (fun _ => length_scanWord_le _ _ r) fun _ =>
  iteInduction (motive := fun x : Token × List UInt8 => x.2.length ≤ r.length)
    (fun _ => length_scanWord_le _ _ r) fun _ => Nat.zero_le _

theorem length_scan_le (c : UInt8) (r : List UInt8) : (scan c r).2.length ≤ r.length := by
  unfold scan
  cases mark? c with
  | some t => exact Nat.le_refl _
  | none =>
    exact iteInduction (motive := fun x : Token × List UInt8 => x.2.length ≤ r.length)
      (fun _ => length_scanString_le [] r) fun _ =>
      iteInduction (motive := fun x : Token × List UInt8 => x.2.length ≤ r.length)
        (fun _ => Nat.le_of_lt_succ (length_scanNumber_lt c r)) fun _ => length_scanLetters_le c r

/-- Adds the tokens of a text to `front`, which is given from right to left. -/
def tokensFrom (front : List Token) (s : List UInt8) : List Token :=
  match s with
  | [] => front.reverse
  | c :: r =>
    if isSpace c then tokensFrom front r
    else
      have := length_scan_le c r
      tokensFrom ((scan c r).1 :: front) (scan c r).2
  termination_by s.length

def tokens (s : List UInt8) : List Token := tokensFrom [] s

end Provisioning.Json
