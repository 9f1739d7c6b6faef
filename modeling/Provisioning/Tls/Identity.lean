import Provisioning.Tls.Pem
/-!
# TLS client identities

* `Tls.Identity` : a chain of certificates and the key of the first;
* `Identity.ofPem?` : the identity in a PEM file; of several keys the last counts;
* `Identity.isUsable` : whether certificate and key have the outline of such objects.
-/

namespace Provisioning.Tls

structure Identity where
  /-- The client's own certificate. -/
  certificate : List UInt8
  /-- The certificates of those who vouch for it. -/
  chain : List (List UInt8)
  key : List UInt8
  deriving DecidableEq, Repr

namespace Identity

def ofPem? (bytes : List UInt8) : Option Identity := do
  let sections ← Pem.sections? bytes
  if sections.any (·.label == .unrelated) then none
  else
    let key ← (sections.filter (·.label == .privateKey)).getLast?
    match sections.filter (·.label == .certificate) with
    | [] => none
    | c :: cs => some ⟨c.bytes, cs.map (·.bytes), key.bytes⟩

/-- The number that bytes spell, the first byte being the highest. -/
def number (bytes : List UInt8) : Nat := bytes.foldl (fun n b => n * 256 + b.toNat) 0

def isSequence : List UInt8 → Bool
  | 0x30 :: n :: r =>
    if n < 0x80 then r.length == n.toNat
    else
      let width := n.toNat - 0x80
      0 < width && width ≤ r.length && r.length - width == number (r.take width)
  | _ => false

/-- Only the outline is looked at: certificate and key are each one sequence. -/
def isUsable (i : Identity) : Bool := isSequence i.certificate && isSequence i.key

end Identity

end Provisioning.Tls
