import Provisioning.Batch.Sequences
/-!
# Declarations

* `Declaration` : a batch as the operator declares it, each field as written;
* the defaults of the upload settings;
* `Declaration.uploadUrl` : where the batch is imported.
-/

namespace Provisioning.Batch

def defaultUploadHostname : String := "localhost"

def defaultUploadPort : UInt16 := 8080

def defaultHssVendor : String := "M1"

def defaultProfileVendor : String := "Idemia"

def defaultInitialHssState : String := "ACTIVATED"

structure Declaration where
  iccid : Ends
  imsi : Ends
  msisdn : Ends
  profileType : String
  quantity : String
  uploadHostname : String := defaultUploadHostname
  uploadPort : UInt16 := defaultUploadPort
  hssVendor : String := defaultHssVendor
  profileVendor : String := defaultProfileVendor
  initialHssState : String := defaultInitialHssState
  deriving DecidableEq, Repr

def Declaration.uploadUrl (d : Declaration) : String :=
  "http://" ++ d.uploadHostname ++ ":" ++ d.uploadPort.toNat.repr ++ "/ostelco/sim-inventory/"
    ++ d.hssVendor ++ "/import-batch/profilevendor/" ++ d.profileVendor ++ "?initialHssState="
    ++ d.initialHssState

end Provisioning.Batch
