/-!
# Why a batch is rejected

* `Rejection` : a field of the wrong form, or ranges of different lengths;
* `Rejection.message` : the text for the operator.
-/

namespace Provisioning.Batch

inductive Rejection
  /-- The field called `label` holds `value`, which is not what was `expected`. -/
  | invalidFormat (label value expected : String)
  /-- The three ranges and the declared quantity do not agree. -/
  | lengthMismatch (iccid imsi msisdn quantity : Nat)
  deriving DecidableEq, Repr

namespace Rejection

def message : Rejection → String
  | invalidFormat label value expected =>
    "not a valid " ++ label ++ ": '" ++ value ++ "' (" ++ expected ++ ")"
  | lengthMismatch iccid imsi msisdn quantity =>
    "identifier ranges are not the same length: iccid=" ++ iccid.repr ++ ", imsi=" ++ imsi.repr
      ++ ", msisdn=" ++ msisdn.repr ++ ", declared quantity=" ++ quantity.repr

end Rejection

end Provisioning.Batch
