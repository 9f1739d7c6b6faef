import Provisioning.Batch.Range
import Provisioning.Log
/-!
# The three families of a batch

* `Sequences` : the ranges of ICCIDs, IMSIs and MSISDNs;
* `Sequences.reconcile` : reads the three and requires that each has the declared length;
* `Rejection.events` : what a rejection reports.
-/

namespace Provisioning.Batch

structure Sequences where
  iccid : Range
  imsi : Range
  msisdn : Range
  deriving DecidableEq, Repr

/-- The first and the last identifier of a family, as written. -/
structure Ends where
  first : String
  last : String
  deriving DecidableEq, Repr

namespace Sequences

def length (s : Sequences) : Nat := s.iccid.length

/-- Each range has `quantity` identifiers. -/
def Agree (s : Sequences) (quantity : Nat) : Prop :=
  s.iccid.length = s.imsi.length ∧ s.imsi.length = s.msisdn.length ∧ s.msisdn.length = quantity

instance (s : Sequences) (quantity : Nat) : Decidable (s.Agree quantity) :=
  inferInstanceAs (Decidable (_ ∧ _ ∧ _))

def reconcile (iccid imsi msisdn : Ends) (quantity : Nat) : Except Rejection Sequences := do
  let i ← Range.parseIccid iccid.first iccid.last
  let m ← Range.parse "imsi" imsi.first imsi.last
  let n ← Range.parse "msisdn" msisdn.first msisdn.last
  let s : Sequences := ⟨i, m, n⟩
  if s.Agree quantity then
    return s
  else
    throw (.lengthMismatch i.length m.length n.length quantity)

end Sequences

/-- Ranges that disagree are reported with their lengths; a malformed field is not. -/
def Rejection.events : Rejection → List Event
  | .invalidFormat .. => []
  | .lengthMismatch iccid imsi msisdn quantity =>
    [{ level := .debug, message := "identifier ranges disagree",
       fields := [("iccid_len", iccid.repr), ("imsi_len", imsi.repr),
         ("msisdn_len", msisdn.repr), ("quantity", quantity.repr)] }]

end Provisioning.Batch
