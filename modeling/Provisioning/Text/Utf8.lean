/-!
# UTF-8

* `encode`, `encodeText` : the bytes of characters;
* `byteLength` : how many bytes characters take;
* `decode?` : the characters of well-formed bytes;
* `pieces` : bytes cut into characters and ill-formed parts, each as long as it can be while it
  still begins a character;
* `decodeLossy` : the characters of any bytes, each ill-formed part read as U+FFFD.
-/

namespace Provisioning.Utf8

def encode (s : List Char) : List UInt8 := s.flatMap String.utf8EncodeChar

def encodeText (s : String) : List UInt8 := encode s.toList

def byteLength : List Char → Nat
  | [] => 0
  | c :: s => c.utf8Size + byteLength s

/-- How many bytes a character that starts with this byte takes; 0 where none does. -/
def width (b : UInt8) : Nat :=
  if b < 0x80 then 1
  else if b < 0xC2 then 0
  else if b < 0xE0 then 2
  else if b < 0xF0 then 3
  else if b < 0xF5 then 4
  else 0

def isContinuation (b : UInt8) : Bool := 0x80 ≤ b && b < 0xC0

/-- The second byte has a narrower range after some first bytes: no overlong form, no surrogate,
nothing past the last code point. -/
def isSecond (first b : UInt8) : Bool :=
  isContinuation b &&
    (if first == 0xE0 then 0xA0 ≤ b
     else if first == 0xED then b < 0xA0
     else if first == 0xF0 then 0x90 ≤ b
     else if first == 0xF4 then b < 0x90
     else true)

def low (b : UInt8) : Nat := b.toNat % 64

/-- Cuts bytes into characters and ill-formed parts. -/
def pieces : List UInt8 → List (Option Char)
  | [] => []
  | a :: r =>
    match width a with
    | 1 => some (Char.ofNat a.toNat) :: pieces r
    | 2 =>
      match r with
      | [] => [none]
      | b :: r =>
        if isSecond a b then some (Char.ofNat (a.toNat % 32 * 64 + low b)) :: pieces r
        else none :: pieces (b :: r)
    | 3 =>
      match r with
      | [] => [none]
      | b :: r =>
        if isSecond a b then
          match r with
          | [] => [none]
          | c :: r =>
            if isContinuation c then
              some (Char.ofNat (a.toNat % 16 * 4096 + low b * 64 + low c)) :: pieces r
            else none :: pieces (c :: r)
        else none :: pieces (b :: r)
    | 4 =>
      match r with
      | [] => [none]
      | b :: r =>
        if isSecond a b then
          match r with
          | [] => [none]
          | c :: r =>
            if isContinuation c then
              match r with
              | [] => [none]
              | d :: r =>
                if isContinuation d then
                  some (Char.ofNat (a.toNat % 8 * 262144 + low b * 4096 + low c * 64 + low d))
                    :: pieces r
                else none :: pieces (d :: r)
            else none :: pieces (c :: r)
        else none :: pieces (b :: r)
    | _ => none :: pieces r

def decodeLossy (s : List UInt8) : List Char := (pieces s).map (·.getD '\uFFFD')

/-- The text of well-formed bytes, `none` for any other. -/
def decode? (s : List UInt8) : Option String := String.fromUTF8? ⟨s.toArray⟩

end Provisioning.Utf8
