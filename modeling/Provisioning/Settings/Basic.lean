import Provisioning.Batch.Declaration
/-!
# Settings

What the operator sets once for all calls and batches.

* `ConnectionSettings` : how to reach the ES2+ interface, each setting given or not;
* `UploadSettings` : where batches are imported, with the defaults filled in;
* `Settings` : both;
* `Settings.Fault` : why settings cannot be loaded or saved; `Fault.message` is its text.
-/

namespace Provisioning

structure ConnectionSettings where
  host : Option String := none
  port : Option UInt16 := none
  requesterId : Option String := none
  cert : Option String := none
  key : Option String := none
  acceptInvalidServerCerts : Option Bool := none
  timeoutSecs : Option UInt64 := none
  deriving DecidableEq, Repr

structure UploadSettings where
  hostname : String := Batch.defaultUploadHostname
  port : UInt16 := Batch.defaultUploadPort
  hssVendor : String := Batch.defaultHssVendor
  profileVendor : String := Batch.defaultProfileVendor
  initialHssState : String := Batch.defaultInitialHssState
  deriving DecidableEq, Repr

structure Settings where
  connection : ConnectionSettings := {}
  upload : UploadSettings := {}
  deriving DecidableEq, Repr

namespace Settings

inductive ReadFault
  /-- No file, or not in UTF-8. -/
  | unreadable
  /-- No settings document. -/
  | malformed
  deriving DecidableEq, Repr

def ReadFault.message : ReadFault → String
  | unreadable => "the file cannot be read"
  | malformed => "the file is no settings document"

inductive Fault
  | noDirectory
  | read (path : String) (cause : ReadFault)
  | write (path : String)
  | invalidValue (sectionName key value : String)
  deriving DecidableEq, Repr

def Fault.message : Fault → String
  | noDirectory => "could not determine the user configuration directory"
  | read path cause => "failed to read " ++ path ++ ": " ++ cause.message
  | write path => "failed to write " ++ path ++ ": the file cannot be written"
  | invalidValue sectionName key value =>
    "invalid value '" ++ value ++ "' for [" ++ sectionName ++ "] " ++ key

end Settings

end Provisioning
