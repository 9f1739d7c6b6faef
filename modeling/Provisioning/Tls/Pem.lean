import Provisioning.Text.Base64
import Provisioning.Text.Split
/-!
# PEM files

Text with sections of encoded bytes, each between a line that opens it and a line that closes it.

* `Pem.Section` : what a section is labelled, and its bytes;
* `Pem.sections?` : the sections whose label is known, in order; other sections and the lines
  between sections are skipped.

A file fails if a known section is not in Base64, if an opening line does not end in five dashes,
or if a section is still open at its end.
-/

namespace Provisioning.Tls.Pem
open Text

inductive Label
  | certificate
  | privateKey
  | unrelated
  deriving DecidableEq, Repr

def Label.ofName? (name : List Char) : Option Label :=
  match String.ofList name with
  | "CERTIFICATE" => some certificate
  | "PRIVATE KEY" | "RSA PRIVATE KEY" | "EC PRIVATE KEY" => some privateKey
  | "PUBLIC KEY" | "X509 CRL" | "CERTIFICATE REQUEST" => some unrelated
  | _ => none

structure Section where
  label : Label
  bytes : List UInt8
  deriving DecidableEq, Repr

/-- A section that is not closed yet. -/
structure Draft where
  name : List Char
  text : List Char
  deriving DecidableEq, Repr

def opening : List Char := "-----BEGIN ".toList

def closing (name : List Char) : List Char := "-----END ".toList ++ name ++ "-----".toList

/-- Lines end at a line feed or a carriage return. -/
def lines (s : List Char) : List (List Char) :=
  splitOn '\n' (s.map fun c => if c = '\r' then '\n' else c)

/-- The name on an opening line, of which `rest` follows `opening`. -/
def openingName? (rest : List Char) : Option (List Char) :=
  let (back, front) := rest.reverse.span fun c => c == '-' || c == ' '
  if back.count '-' = 5 then some (front.reverse ++ back.reverse.takeWhile (· == ' ')) else none

/-- A line of a section without the spaces at its end. -/
def trimEnd (s : List Char) : List Char := (s.reverse.dropWhile (· == ' ')).reverse

/-- Reads on with the section that is open, if one is. A section that is opened inside another takes
over what that one has gathered. -/
def read? : Option Draft → List (List Char) → Option (List Section)
  | none, [] => some []
  | some _, [] => none
  | draft, line :: r =>
    if opening.isPrefixOf line then do
      let name ← openingName? (line.drop opening.length)
      read? (some ⟨name, (draft.map (·.text)).getD []⟩) r
    else
      match draft with
      | none => read? none r
      | some d =>
        if (closing d.name).isPrefixOf line then
          match Label.ofName? d.name with
          | none => read? none r
          | some label => do
            let bytes ← Base64.decode? d.text
            let sections ← read? none r
            return ⟨label, bytes⟩ :: sections
        else read? (some ⟨d.name, d.text ++ trimEnd line⟩) r

/-- The sections of a file; bytes above the ASCII range only ever stand between sections. -/
def sections? (bytes : List UInt8) : Option (List Section) :=
  read? none (lines (bytes.map fun b => Char.ofNat b.toNat))

end Provisioning.Tls.Pem
