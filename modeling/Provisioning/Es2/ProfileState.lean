/-!
# States of a profile

* `ProfileState` : where a profile stands on the server; a state that is not known is kept as it
  is written;
* `ProfileState.name`, `ProfileState.ofName` : its written form, and back.
-/

namespace Provisioning.Es2

inductive ProfileState
  | available
  | allocated
  | linked
  | confirmed
  | released
  | downloaded
  | installed
  | error
  | unavailable
  | other (name : String)
  deriving DecidableEq, Repr

namespace ProfileState

def name : ProfileState → String
  | available => "AVAILABLE"
  | allocated => "ALLOCATED"
  | linked => "LINKED"
  | confirmed => "CONFIRMED"
  | released => "RELEASED"
  | downloaded => "DOWNLOADED"
  | installed => "INSTALLED"
  | error => "ERROR"
  | unavailable => "UNAVAILABLE"
  | other name => name

def known : List ProfileState :=
  [available, allocated, linked, confirmed, released, downloaded, installed, error, unavailable]

def ofName (s : String) : ProfileState := (known.find? (·.name == s)).getD (other s)

def isKnown : ProfileState → Bool
  | other _ => false
  | _ => true

end ProfileState

end Provisioning.Es2
