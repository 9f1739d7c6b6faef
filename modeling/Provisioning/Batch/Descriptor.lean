import Provisioning.Batch.Declaration
import Provisioning.Batch.Field
import Provisioning.Json.Value
/-!
# Descriptors

A descriptor stands for a whole batch: where it starts and which way it counts.

* `Descriptor` : an accepted batch;
* `Declaration.descriptor` : checks a declaration field by field, and then that the three families
  have the declared length;
* `Declaration.events` : what the check reports;
* `Descriptor.toJson` : the descriptor as a document.
-/

namespace Provisioning.Batch

structure Descriptor where
  profileType : String
  url : String
  quantity : Nat
  firstIccid : String
  iccidIncrement : Increment
  firstImsi : String
  imsiIncrement : Increment
  firstMsisdn : String
  msisdnIncrement : Increment
  sequences : Sequences
  deriving DecidableEq, Repr

def Declaration.descriptor (d : Declaration) : Except Rejection Descriptor := do
  let _ ← Field.iccid "first-iccid" d.iccid.first
  let _ ← Field.iccid "last-iccid" d.iccid.last
  let _ ← Field.imsi "first-imsi" d.imsi.first
  let _ ← Field.imsi "last-imsi" d.imsi.last
  let _ ← Field.msisdn "first-msisdn" d.msisdn.first
  let _ ← Field.msisdn "last-msisdn" d.msisdn.last
  let _ ← Field.profileType "profile-type" d.profileType
  let _ ← Field.hssState "initial-hss-state" d.initialHssState
  let quantity ← Field.quantity "batch-quantity" d.quantity
  let _ ← Field.url "upload-url" d.uploadUrl
  let s ← Sequences.reconcile d.iccid d.imsi d.msisdn quantity
  return {
    profileType := d.profileType
    url := d.uploadUrl
    quantity
    firstIccid := d.iccid.first
    iccidIncrement := s.iccid.increment
    firstImsi := d.imsi.first
    imsiIncrement := s.imsi.increment
    firstMsisdn := d.msisdn.first
    msisdnIncrement := s.msisdn.increment
    sequences := s }

namespace Descriptor

def events (b : Descriptor) : List Event :=
  [{ level := .info, message := "batch declared",
     fields := [("quantity", b.quantity.repr), ("profile_type", b.profileType), ("url", b.url)] }]

def toJson (b : Descriptor) : Json :=
  .object [
    ("profileType", .string b.profileType),
    ("url", .string b.url),
    ("quantity", .ofNat b.quantity),
    ("firstIccid", .string b.firstIccid),
    ("iccidIncrement", .ofInt b.iccidIncrement.step),
    ("firstImsi", .string b.firstImsi),
    ("imsiIncrement", .ofInt b.imsiIncrement.step),
    ("firstMsisdn", .string b.firstMsisdn),
    ("msisdnIncrement", .ofInt b.msisdnIncrement.step)]

end Descriptor

def Declaration.events (d : Declaration) : List Event :=
  match d.descriptor with
  | .ok b => b.events
  | .error r => r.events

end Provisioning.Batch
