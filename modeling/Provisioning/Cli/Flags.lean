import Provisioning.Es2.Config
import Provisioning.Settings.Basic
/-!
# Flags and settings

A flag wins over the settings file, and the file over the defaults.

* `ConnectionFlags.resolve` : the connection that flags and file describe, or the setting that both
  lack;
* `BatchFlags.declaration` : the batch that flags and file describe.
-/

namespace Provisioning.Cli

structure ConnectionFlags where
  host : Option String := none
  port : Option UInt16 := none
  requesterId : Option String := none
  cert : Option String := none
  key : Option String := none
  verifyServerCerts : Bool := false
  timeoutSecs : Option UInt64 := none
  logPayloads : Bool := false
  deriving DecidableEq, Repr

/-- A setting that neither a flag nor the file gives. -/
structure MissingSetting where
  flag : String
  key : String
  deriving DecidableEq, Repr

def MissingSetting.message (m : MissingSetting) : String :=
  "missing " ++ m.key ++ ". Use --" ++ m.flag ++ " or set " ++ m.key
    ++ " in the [es2plus] section of config.ini"

def required {α : Type} (flag key : String) : Option α → Except MissingSetting α
  | some a => .ok a
  | none => .error ⟨flag, key⟩

def ConnectionFlags.resolve (f : ConnectionFlags) (s : ConnectionSettings) :
    Except MissingSetting Es2.Config := do
  let host ← required "host" "host" (f.host.or s.host)
  let port ← required "port" "port" (f.port.or s.port)
  let requesterId ← required "requester-id" "requester_id" (f.requesterId.or s.requesterId)
  let cert ← required "cert" "cert" (f.cert.or s.cert)
  let key ← required "key" "key" (f.key.or s.key)
  return {
    host
    port
    requesterId
    cert
    key
    acceptInvalidServerCerts := !f.verifyServerCerts && s.acceptInvalidServerCerts.getD true
    timeoutMs := (f.timeoutSecs.or s.timeoutSecs).map fun n => n.toNat * 1000
    logPayloads := f.logPayloads }

structure BatchFlags where
  iccid : Batch.Ends
  imsi : Batch.Ends
  msisdn : Batch.Ends
  profileType : String
  batchQuantity : String
  uploadHostname : Option String := none
  uploadPort : Option UInt16 := none
  hssVendor : Option String := none
  profileVendor : Option String := none
  initialHssState : Option String := none
  deriving DecidableEq, Repr

def BatchFlags.declaration (f : BatchFlags) (u : UploadSettings) : Batch.Declaration where
  iccid := f.iccid
  imsi := f.imsi
  msisdn := f.msisdn
  profileType := f.profileType
  quantity := f.batchQuantity
  uploadHostname := f.uploadHostname.getD u.hostname
  uploadPort := f.uploadPort.getD u.port
  hssVendor := f.hssVendor.getD u.hssVendor
  profileVendor := f.profileVendor.getD u.profileVendor
  initialHssState := f.initialHssState.getD u.initialHssState

end Provisioning.Cli
