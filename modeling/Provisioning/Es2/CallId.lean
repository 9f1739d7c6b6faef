import Provisioning.Text.Hex
/-!
# Identifiers of calls

Each request carries an identifier of its own.

* `CallIds` : a source of identifiers; a draw can fail;
* `CallId.ofBytes` : sixteen random bytes as a URN with a UUID of version 4;
* `CallId.isUrn` : the form of such a URN.
-/

namespace Provisioning.Es2

/-- The identifier of each draw, or why there is none. -/
abbrev CallIds := Nat → Except String String

namespace CallId

def urnStart : List Char := "urn:uuid:".toList

/-- The four bits of the version and the two of the variant are fixed. -/
def stamp (i : Nat) (b : UInt8) : UInt8 :=
  if i = 6 then b % 16 + 0x40 else if i = 8 then b % 64 + 0x80 else b

def hexBytes (bytes : List UInt8) : List Char := bytes.flatMap fun b => Hex.fixed 2 b.toNat

def ofBytes (bytes : List UInt8) : String :=
  let bs := bytes.zipIdx.map fun (b, i) => stamp i b
  String.ofList
    (urnStart ++ hexBytes (bs.take 4) ++ '-' :: hexBytes ((bs.drop 4).take 2)
      ++ '-' :: hexBytes ((bs.drop 6).take 2) ++ '-' :: hexBytes ((bs.drop 8).take 2)
      ++ '-' :: hexBytes ((bs.drop 10).take 6))

def isLowerHex (c : Char) : Bool := c.isDigit || ('a' ≤ c && c ≤ 'f')

def fits (i : Nat) (c : Char) : Bool :=
  if i = 8 ∨ i = 13 ∨ i = 18 ∨ i = 23 then c == '-'
  else if i = 14 then c == '4'
  else if i = 19 then ['8', '9', 'a', 'b'].contains c
  else isLowerHex c

def isUuid (s : List Char) : Bool := s.length == 36 && s.zipIdx.all fun (c, i) => fits i c

def isUrn (s : List Char) : Bool := urnStart.isPrefixOf s && isUuid (s.drop urnStart.length)

end CallId

end Provisioning.Es2
