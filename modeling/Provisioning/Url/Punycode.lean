/-!
# Punycode

Labels of a host that are not ASCII are written with digits of base 36.

* `threshold`, `adapt` : where a digit ends a number, and the bias for the next number;
* `number`, `readNumber?` : a number in digits, the lowest first, and back;
* `encode` : the ASCII characters, a hyphen, and for each other character, from the lowest code
  point up, how far it lies from the one before;
* `decode?` : the characters again; `none` for digits that name no character.
-/

namespace Provisioning.Punycode

def digit (d : Nat) : Char := if d < 26 then Char.ofNat (0x61 + d) else Char.ofNat (0x16 + d)

def digit? (c : Char) : Option Nat :=
  if 'a' ≤ c && c ≤ 'z' then some (c.toNat - 0x61)
  else if 'A' ≤ c && c ≤ 'Z' then some (c.toNat - 0x41)
  else if '0' ≤ c && c ≤ '9' then some (c.toNat - 0x16)
  else none

/-- A digit below this is the last of its number. -/
def threshold (k bias : Nat) : Nat :=
  if k ≤ bias then 1 else if bias + 26 ≤ k then 26 else k - bias

theorem threshold_pos (k bias : Nat) : 0 < threshold k bias := by
  unfold threshold
  split
  · omega
  · split <;> omega

/-- Scales a number down until one digit shows it, and counts the digits it took. -/
def settle (delta k : Nat) : Nat :=
  if 455 < delta then settle (delta / 35) (k + 36) else k + 36 * delta / (delta + 38)
  termination_by delta
  decreasing_by exact Nat.div_lt_self (by omega) (by omega)

/-- The bias after a number `delta`, with `count` characters placed so far. -/
def adapt (delta count : Nat) (isFirst : Bool) : Nat :=
  let d := if isFirst then delta / 700 else delta / 2
  settle (d + d / count) 0

/-! ## Numbers -/

def number (bias k q : Nat) : List Char :=
  let t := threshold k bias
  if q < t then [digit q]
  else digit (t + (q - t) % (36 - t)) :: number bias (k + 36) ((q - t) / (36 - t))
  termination_by q
  decreasing_by
    have := threshold_pos k bias
    have := Nat.div_le_self (q - threshold k bias) (36 - threshold k bias)
    omega

/-- Adds the number at the front of a text to `n`, its next digit having the weight `w`. -/
def readNumber? (bias : Nat) : Nat → Nat → Nat → List Char → Option (Nat × List Char)
  | _, _, _, [] => none
  | k, w, n, c :: r =>
    match digit? c with
    | none => none
    | some d =>
      let t := threshold k bias
      if d < t then some (n + d * w, r) else readNumber? bias (k + 36) (w * (36 - t)) (n + d * w) r

theorem length_lt_of_readNumber? {bias k w n m : Nat} {s r : List Char}
    (h : readNumber? bias k w n s = some (m, r)) : r.length < s.length := by
  induction s generalizing k w n with
  | nil => simp [readNumber?] at h
  | cons c s ih =>
    simp only [readNumber?] at h
    split at h
    · simp at h
    · split at h
      · simp only [Option.some.injEq, Prod.mk.injEq] at h
        simp [h.2]
      · have := ih h
        simp only [List.length_cons]
        omega

/-! ## Texts -/

structure Progress where
  out : List Char
  delta : Nat
  bias : Nat
  placed : Nat

/-- One character of the text, while the characters with the code point `m` are placed. -/
def visit (basic m : Nat) (p : Progress) (c : Char) : Progress :=
  if c.toNat < m then { p with delta := p.delta + 1 }
  else if c.toNat = m then
    { out := p.out ++ number p.bias 36 p.delta
      delta := 0
      bias := adapt p.delta (p.placed + 1) (p.placed == basic)
      placed := p.placed + 1 }
  else p

/-- Places the code points, given from the lowest up, the last one before them being below `n`. -/
def place (s : List Char) (basic : Nat) : Nat → Progress → List Nat → List Char
  | _, p, [] => p.out
  | n, p, m :: ms =>
    let p := s.foldl (visit basic m) { p with delta := p.delta + (m - n) * (p.placed + 1) }
    place s basic (m + 1) { p with delta := p.delta + 1 } ms

/-- Numbers from the lowest up, each once. -/
def ascending (ns : List Nat) : List Nat :=
  (ns.mergeSort (· ≤ ·)).eraseDups

def isAscii (c : Char) : Bool := c.toNat < 0x80

def encode (s : List Char) : List Char :=
  let basic := s.filter isAscii
  let others := ascending ((s.filter (!isAscii ·)).map Char.toNat)
  basic ++ (if basic.isEmpty then [] else ['-'])
    ++ place s basic.length 0x80 ⟨[], 0, 72, basic.length⟩ others

/-- Puts one character after the other into `out`, by the numbers that `s` holds. -/
def insertAll (n i bias : Nat) (out s : List Char) : Option (List Char) :=
  match s with
  | [] => some out
  | c :: r =>
    match h : readNumber? bias 36 1 i (c :: r) with
    | none => none
    | some (j, t) =>
      have := length_lt_of_readNumber? h
      let count := out.length + 1
      let m := n + j / count
      if m.isValidChar then
        insertAll m (j % count + 1) (adapt (j - i) count (i == 0))
          (out.insertIdx (j % count) (Char.ofNat m)) t
      else none
  termination_by s.length
  decreasing_by exact this

/-- The text before the last hyphen, if there is some, and the text after it. -/
def splitLast (s : List Char) : List Char × List Char :=
  let back := s.reverse.takeWhile (· != '-')
  let front := s.take (s.length - back.length - 1)
  if front.isEmpty then ([], s) else (front, back.reverse)

def decode? (s : List Char) : Option (List Char) :=
  let (basic, digits) := splitLast s
  if basic.all isAscii then insertAll 0x80 0 72 basic digits else none

end Provisioning.Punycode
