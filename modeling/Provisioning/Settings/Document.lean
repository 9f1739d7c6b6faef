import Provisioning.Text.Blank
import Provisioning.Text.Decimal
import Provisioning.Ini.Document
import Provisioning.Settings.Basic
/-!
# Settings as a document

* `Settings.ofDocument` : the settings of a document; a number or a flag may have blanks around it;
* `Settings.toDocument` : a document with the settings that are given.
-/

namespace Provisioning.Settings
open Text

def connectionSection : String := "es2plus"

def uploadSection : String := "upload"

/-! ## Reading -/

def flag? (s : List Char) : Option Bool :=
  match String.ofList s with
  | "true" => some true
  | "false" => some false
  | _ => none

def port? (s : List Char) : Option UInt16 :=
  (Decimal.unsigned? Decimal.portLimit s).map UInt16.ofNat

def count? (s : List Char) : Option UInt64 :=
  (Decimal.unsigned? Decimal.countLimit s).map UInt64.ofNat

def parsed {α : Type} (read : List Char → Option α) (s : Ini.Section) (sectionName key : String) :
    Except Fault (Option α) :=
  match s.get? key with
  | none => .ok none
  | some raw =>
    match read (trim raw.toList) with
    | some a => .ok (some a)
    | none => .error (.invalidValue sectionName key raw)

def connectionOf (s : Ini.Section) : Except Fault ConnectionSettings := do
  let port ← parsed port? s connectionSection "port"
  let accept ← parsed flag? s connectionSection "accept_invalid_server_certs"
  let timeout ← parsed count? s connectionSection "timeout_secs"
  return {
    host := s.get? "host"
    port
    requesterId := s.get? "requester_id"
    cert := s.get? "cert"
    key := s.get? "key"
    acceptInvalidServerCerts := accept
    timeoutSecs := timeout }

def uploadOf (s : Ini.Section) : Except Fault UploadSettings := do
  let port ← parsed port? s uploadSection "port"
  let d : UploadSettings := {}
  return {
    hostname := (s.get? "hostname").getD d.hostname
    port := port.getD d.port
    hssVendor := (s.get? "hss_vendor").getD d.hssVendor
    profileVendor := (s.get? "profile_vendor").getD d.profileVendor
    initialHssState := (s.get? "initial_hss_state").getD d.initialHssState }

/-- The settings of a section, or those without any if it is missing. -/
def ofSection {α : Type} (read : Ini.Section → Except Fault α) (default : α) :
    Option Ini.Section → Except Fault α
  | none => .ok default
  | some s => read s

def ofDocument (d : Ini.Document) : Except Fault Settings := do
  let connection ← ofSection connectionOf {} (d.section? connectionSection)
  let upload ← ofSection uploadOf {} (d.section? uploadSection)
  return ⟨connection, upload⟩

/-! ## Writing -/

def flagText (b : Bool) : String := if b then "true" else "false"

def connectionValues (c : ConnectionSettings) : List (String × String) :=
  [("host", c.host), ("port", c.port.map fun p => p.toNat.repr), ("requester_id", c.requesterId),
    ("cert", c.cert), ("key", c.key),
    ("accept_invalid_server_certs", c.acceptInvalidServerCerts.map flagText),
    ("timeout_secs", c.timeoutSecs.map fun n => n.toNat.repr)].filterMap
    fun (key, value) => value.map fun v => (key, v)

def uploadValues (u : UploadSettings) : List (String × String) :=
  [("hostname", u.hostname), ("port", u.port.toNat.repr), ("hss_vendor", u.hssVendor),
    ("profile_vendor", u.profileVendor), ("initial_hss_state", u.initialHssState)]

/-- A section without values is left out. -/
def toDocument (s : Settings) : Ini.Document :=
  let connection := connectionValues s.connection
  let upload : Ini.Section := ⟨some uploadSection, uploadValues s.upload⟩
  if connection.isEmpty then ⟨[upload]⟩ else ⟨[⟨some connectionSection, connection⟩, upload]⟩

end Provisioning.Settings
