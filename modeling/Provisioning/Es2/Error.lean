import Provisioning.Json.Token
import Provisioning.Es2.Message
/-!
# Why an ES2+ call fails

* `Es2.Error` : the causes; `Error.message` is the text for the operator.
-/

namespace Provisioning.Es2

inductive Error
  /-- The certificate or the key cannot be read. -/
  | credentialRead (path : String)
  /-- The certificate and the key cannot be used. -/
  | credentials (why : String)
  | callId (why : String)
  | transport (command : Command) (url : String) (why : String)
  /-- The reply holds no response. -/
  | decode (command : Command) (httpStatus : Nat) (fault : Json.Fault)
  /-- The server says that it did not execute the function; `response` is all that it says. -/
  | commandFailed (command : Command) (status : String) (data : StatusCodeData) (response : Json)
  | multipleProfiles (iccid : String) (count : Nat)
  deriving Repr

def faultMessage : Json.Fault → String
  | .truncated => "the text ends too early"
  | .malformed => "the text is not JSON"
  | .wrongShape => "the text has another shape"

def Error.message : Error → String
  | credentialRead path => "failed to read TLS credential " ++ path ++ ": the file cannot be read"
  | credentials why => "invalid TLS client identity: " ++ why
  | callId why => "failed to generate function call identifier: " ++ why
  | transport command url why => command.name ++ " request to " ++ url ++ " failed: " ++ why
  | decode command status fault =>
    "failed to decode " ++ command.name ++ " response (HTTP " ++ status.repr ++ "): "
      ++ faultMessage fault
  | commandFailed command status data _ =>
    command.name ++ " execution status was '" ++ status ++ "' (" ++ data.summary ++ ")"
  | multipleProfiles iccid count =>
    "getProfileStatus returned " ++ count.repr ++ " profiles for iccid " ++ iccid

end Provisioning.Es2
