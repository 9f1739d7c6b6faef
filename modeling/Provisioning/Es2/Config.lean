/-!
# Connections

* `Es2.Config` : what a client of the ES2+ interface needs to know;
* `Config.ofIdentity` : a connection with the usual choices for the rest;
* `Config.endpointUrl` : the address of a function.
-/

namespace Provisioning.Es2

structure Config where
  host : String
  port : UInt16
  /-- Names the operator in every request. -/
  requesterId : String
  cert : String
  key : String
  acceptInvalidServerCerts : Bool
  /-- The time limit of a request, in milliseconds. -/
  timeoutMs : Option Nat
  logPayloads : Bool
  deriving DecidableEq, Repr

namespace Config

/-- The servers' certificates cannot be checked in general, so any is accepted. -/
def ofIdentity (host : String) (port : UInt16) (requesterId cert key : String) : Config where
  host
  port
  requesterId
  cert
  key
  acceptInvalidServerCerts := true
  timeoutMs := none
  logPayloads := false

def withAcceptInvalidServerCerts (c : Config) (accept : Bool) : Config :=
  { c with acceptInvalidServerCerts := accept }

def withTimeoutMs (c : Config) (ms : Nat) : Config := { c with timeoutMs := some ms }

def withLogPayloads (c : Config) (enabled : Bool) : Config := { c with logPayloads := enabled }

def endpointUrl (c : Config) (function : String) : String :=
  "https://" ++ c.host ++ ":" ++ c.port.toNat.repr ++ "/gsma/rsp2/es2plus/" ++ function

end Config

end Provisioning.Es2
