import Provisioning.Text.Utf8
import Provisioning.Json.Tree
/-!
# Decoding JSON

A decoder takes a tree and gives a value, or the leftmost fault.

* `text` : the text of a string's body, its escapes resolved;
* `expectation` : the fault of a tree that has another shape than expected;
* `Decoder.string`, `bool`, `list`, `orDefault`, `optional` : decoders;
* `RecordField`, `Decoder.record` : a record, given by its members or by its values in order; what
  a text leaves out keeps its default, members that are not known are passed over;
* `decode` : a whole text.
-/

namespace Provisioning.Json

/-! ## Strings -/

def hexValue (s : List UInt8) : Nat :=
  s.foldl (fun n b => n * 16 + (Hex.digit? (Char.ofNat b.toNat)).getD 0) 0

def shortEscape (b : UInt8) : UInt8 :=
  if b == 0x62 then 0x08
  else if b == 0x66 then 0x0C
  else if b == 0x6E then 0x0A
  else if b == 0x72 then 0x0D
  else if b == 0x74 then 0x09
  else b

def isHighSurrogate (n : Nat) : Bool := 0xD800 ≤ n && n < 0xDC00

def isLowSurrogate (n : Nat) : Bool := 0xDC00 ≤ n && n < 0xE000

def combine (high low : Nat) : Char :=
  Char.ofNat (0x10000 + (high - 0xD800) * 0x400 + (low - 0xDC00))

/-- The value of an escape by code point, and what is behind it. -/
def codeUnit? : List UInt8 → Option (Nat × List UInt8)
  | a :: b :: c :: d :: r => some (hexValue [a, b, c, d], r)
  | _ => none

/-- The value of another escape by code point at the front of a body; a body that is at its end
gives the fault `atEnd`. -/
def nextUnit (atEnd : Fault) : List UInt8 → Except Fault (Nat × List UInt8)
  | [] => .error atEnd
  | [_] => .error .malformed
  | c :: e :: r =>
    if c == 0x5C && e == 0x75 then
      match codeUnit? r with
      | some p => .ok p
      | none => .error .malformed
    else .error .malformed

/-- The character of an escape by code point, from behind its letter, and what is behind it. A
character may take two escapes. -/
def escaped (atEnd : Fault) (s : List UInt8) : Except Fault (Char × List UInt8) :=
  match codeUnit? s with
  | none => .error .malformed
  | some (n, r) =>
    if isLowSurrogate n then .error .malformed
    else if isHighSurrogate n then
      match nextUnit atEnd r with
      | .error f => .error f
      | .ok (m, t) => if isLowSurrogate m then .ok (combine n m, t) else .error .malformed
    else .ok (Char.ofNat n, r)

theorem length_codeUnit?_le {s r : List UInt8} {n : Nat} (h : codeUnit? s = some (n, r)) :
    r.length ≤ s.length := by
  unfold codeUnit? at h
  split at h
  · simp only [Option.some.injEq, Prod.mk.injEq] at h
    simp only [← h.2, List.length_cons]
    omega
  · simp at h

theorem length_nextUnit_le {atEnd : Fault} {s r : List UInt8} {n : Nat}
    (h : nextUnit atEnd s = .ok (n, r)) : r.length ≤ s.length := by
  unfold nextUnit at h
  split at h
  · simp at h
  · simp at h
  · split at h
    · split at h
      · rename_i hu
        simp only [Except.ok.injEq] at h
        have := length_codeUnit?_le (h ▸ hu)
        simp only [List.length_cons]
        omega
      · simp at h
    · simp at h

theorem length_escaped_le {atEnd : Fault} {s r : List UInt8} {c : Char}
    (h : escaped atEnd s = .ok (c, r)) : r.length ≤ s.length := by
  unfold escaped at h
  split at h
  · simp at h
  · rename_i hu
    have := length_codeUnit?_le hu
    split at h
    · simp at h
    · split at h
      · split at h
        · simp at h
        · rename_i hn
          have := length_nextUnit_le hn
          split at h
          · simp only [Except.ok.injEq, Prod.mk.injEq] at h
            simp only [← h.2]
            omega
          · simp at h
      · simp only [Except.ok.injEq, Prod.mk.injEq] at h
        simpa only [← h.2] using this

/-- The bytes that a body stands for, behind `front`, which is given from right to left. A body
whose last escape needs another one ends with the fault `atEnd`. -/
def unescape (atEnd : Fault) (front body : List UInt8) : Except Fault (List UInt8) :=
  match body with
  | [] => .ok front.reverse
  | [c] => .ok (c :: front).reverse
  | c :: e :: r =>
    if c == 0x5C then
      if e == 0x75 then
        match h : escaped atEnd r with
        | .error f => .error f
        | .ok (x, t) =>
          have := length_escaped_le h
          unescape atEnd ((String.utf8EncodeChar x).reverse ++ front) t
      else unescape atEnd (shortEscape e :: front) r
    else unescape atEnd (c :: front) (e :: r)
  termination_by body.length

def text (body : List UInt8) : Except Fault String := do
  let bytes ← unescape .malformed [] body
  match Utf8.decode? bytes with
  | some s => return s
  | none => throw .malformed

def textFault (body : List UInt8) (f : Fault) : Fault :=
  match unescape f [] body with
  | .ok _ => f
  | .error g => g

/-! ## Numbers

A number fits no shape, but one that is too large is no number. -/

/-- A number rounded to 53 binary digits, halves to even. -/
def rounded (n : Nat) : Nat :=
  let unit := Nat.pow 2 ((n.log2 + 1) - 53)
  let q := n / unit
  let r := n % unit
  (if 2 * r > unit || (2 * r == unit && q % 2 == 1) then q + 1 else q) * unit

def numberLimit : Nat := Nat.pow 2 1024 - Nat.pow 2 970

def digitsOf (s : List UInt8) : List Nat := (s.filter isDigit).map fun b => b.toNat - 0x30

/-- The digits that fit 64 bits, as a number, and how many are left over. -/
def significand : Nat → List Nat → Nat × Nat
  | n, [] => (n, 0)
  | n, d :: r => if n * 10 + d < UInt64.size then significand (n * 10 + d) r else (n, r.length + 1)

def exponentOf (s : List UInt8) : Int :=
  let n : Nat := (digitsOf s).foldl (fun n d => n * 10 + d) 0
  if s.contains 0x2D then -(n : Int) else n

/-- Whether a number is too large: its digits times a power of ten, both rounded. -/
def isOutOfRange (literal : List UInt8) : Bool :=
  let (mantissa, power) := literal.span fun b => b != 0x65 && b != 0x45
  let (whole, fraction) := mantissa.span (· != 0x2E)
  let (n, leftOver) := significand 0 (digitsOf whole)
  let (n, unread) := significand n (digitsOf fraction)
  let read : Nat := (digitsOf fraction).length - unread
  let exponent : Int := exponentOf power + (leftOver : Int) - (read : Int)
  n != 0 && 0 ≤ exponent
    && (308 < exponent || numberLimit ≤ rounded n * rounded (Nat.pow 10 exponent.toNat))

/-! ## Decoders -/

abbrev Decoder (α : Type) := Tree → Except Fault α

/-- The fault of a tree that is not what was expected. -/
def expectation : Tree → Fault
  | .null | .bool _ | .array _ _ | .object _ _ => .wrongShape
  | .number literal => if isOutOfRange literal then .malformed else .wrongShape
  | .string body =>
    match text body with
    | .ok _ => .wrongShape
    | .error f => f
  | .brokenNumber f => f
  | .brokenString body f => textFault body f
  | .broken f => f

def Decoder.string : Decoder String
  | .string body => text body
  | t => .error (expectation t)

def Decoder.bool : Decoder Bool
  | .bool b => .ok b
  | t => .error (expectation t)

def endOf : Option Fault → Except Fault Unit
  | none => .ok ()
  | some f => .error f

def Decoder.list {α : Type} (item : Decoder α) : Decoder (List α)
  | .array items ending => do
    let as ← items.mapM item
    endOf ending
    return as
  | t => .error (expectation t)

/-- A value that may be left empty with `null`. -/
def Decoder.optional {α : Type} (read : Decoder α) : Decoder (Option α)
  | .null => .ok none
  | t => (read t).map some

def Decoder.orDefault {α : Type} (default : α) (read : Decoder α) : Decoder α
  | .null => .ok default
  | t => read t

/-- The fault inside a value that is passed over, whose strings need not be texts. -/
def passOver : Tree → Option Fault
  | .brokenNumber _ => some .malformed
  | .brokenString _ f => some f
  | .broken f => some f
  | .array _ (some f) => some f
  | .object _ (some (.fault f)) => some f
  | .object _ (some (.key _ f)) => some f
  | .array items none => passOverLast items
  | .object members none => passOverLastMember members
  | _ => none
where
  /-- Only the last item can hold a fault. -/
  passOverLast : List Tree → Option Fault
    | [] => none
    | [t] => passOver t
    | _ :: r => passOverLast r
  passOverLastMember : List (List UInt8 × Tree) → Option Fault
    | [] => none
    | [(_, t)] => passOver t
    | _ :: r => passOverLastMember r

/-! ## Records -/

structure RecordField (σ : Type) where
  name : String
  put : σ → Tree → Except Fault σ

def RecordField.of {σ α : Type} (name : String) (read : Decoder α) (set : σ → α → σ) :
    RecordField σ :=
  ⟨name, fun s t => (read t).map (set s)⟩

/-- Reads members one by one; a known one may come once. -/
def members {σ : Type} (fields : List (RecordField σ)) (seen : List String) (s : σ) :
    List (List UInt8 × Tree) → Except Fault σ
  | [] => .ok s
  | (body, t) :: r => do
    let key ← text body
    match fields.find? (·.name == key) with
    | none =>
      endOf (passOver t)
      members fields seen s r
    | some f =>
      if seen.contains key then throw .wrongShape
      let s ← f.put s t
      members fields (key :: seen) s r

/-- Reads the values of fields in their order; there may be fewer of them, but not more. -/
def items {σ : Type} (s : σ) : List (RecordField σ) → List Tree → Except Fault σ
  | _, [] => .ok s
  | [], _ :: _ => .error .malformed
  | f :: fs, t :: r => do
    let s ← f.put s t
    items s fs r

def objectEnd : Option Ending → Except Fault Unit
  | none => .ok ()
  | some (.fault f) => .error f
  | some (.key body f) => .error (textFault body f)

/-- A record, `default` holding what the tree leaves out. -/
def Decoder.record {σ : Type} (fields : List (RecordField σ)) (default : σ) : Decoder σ
  | .object ms ending => do
    let s ← members fields [] default ms
    objectEnd ending
    return s
  | .array ts ending => do
    let s ← items default fields ts
    endOf ending
    return s
  | t => .error (expectation t)

/-- A whole text; behind the value it holds nothing but blanks. -/
def decode {α : Type} (read : Decoder α) (s : List UInt8) : Except Fault α := do
  let (t, rest) := parse s
  let a ← read t
  if rest.isEmpty then return a else throw .malformed

end Provisioning.Json
