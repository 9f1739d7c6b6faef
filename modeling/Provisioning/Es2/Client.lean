import Provisioning.Es2.Session
import Provisioning.Es2.Codec
/-!
# The client

* `Client` : a transport, a source of identifiers, and who asks;
* `Client.execute` : one exchange; nothing is posted without an identifier;
* `getStatus`, `recoverProfile`, `cancelOrder`, `downloadOrder`, `confirmOrder` : the functions;
  the last two fail unless the server says that it executed them.
-/

namespace Provisioning.Es2

/-- The protocol that the client speaks. -/
def adminProtocol : String := "gsma/rsp/v2.0.0"

structure Client (σ : Type) where
  transport : Transport σ
  callIds : CallIds
  requesterId : String
  logPayloads : Bool

/-! ## Log events -/

def requestEvent (command : Command) (body : String) : Event :=
  { level := .debug, message := "ES2+ request",
    fields := [("command", command.name), ("payload", body)] }

def replyEvent (command : Command) (reply : Reply) : Event :=
  { level := .debug, message := "ES2+ response",
    fields := [("command", command.name), ("http_status", reply.status.repr),
      ("body", String.ofList (Utf8.decodeLossy reply.body))] }

/-- A text that may be missing, as the log shows it. -/
def optionText : Option String → String
  | none => "None"
  | some s => "Some(" ++ Text.quote s ++ ")"

def protocolEvent (command : Command) (reply : Reply) : Event :=
  { level := .warn, message := "response does not announce " ++ adminProtocol,
    fields := [("command", command.name), ("admin_protocol", optionText reply.adminProtocol)] }

def completedEvent (command : Command) (callId : String) : Event :=
  { level := .debug, message := "ES2+ call completed",
    fields := [("command", command.name), ("call_id", callId)] }

def executedEvent (command : Command) : Event :=
  { level := .info, message := "executed successfully", fields := [("command", command.name)] }

def failedEvent (command : Command) (status : String) : Event :=
  { level := .info, message := "execution failed",
    fields := [("command", command.name), ("status", status)] }

/-! ## Calls -/

namespace Client

variable {σ α : Type}

/-- One exchange. A reply that announces no or another protocol is read all the same. -/
def execute [Response α] (c : Client σ) (request : Request) : Call σ α := do
  let callId ← draw c.callIds
  let command := request.command
  let body := (request.body ⟨c.requesterId, callId⟩).compact
  if c.logPayloads then emit (requestEvent command body)
  let reply ← post c.transport command body
  if c.logPayloads then emit (replyEvent command reply)
  if reply.adminProtocol != some adminProtocol then emit (protocolEvent command reply)
  match Json.decode Response.decoder reply.body with
  | .error fault => throw (.decode command reply.status fault)
  | .ok response =>
    emit (completedEvent command callId)
    return response

/-- Fails if the server says that it did not execute the function. -/
def requireSuccess [Response α] (command : Command) (response : α) : Call σ α := do
  let e := (Response.header response).executionStatus
  if e.isSuccess then
    emit (executedEvent command)
    return response
  else
    emit (failedEvent command e.status)
    throw (.commandFailed command e.status e.statusCodeData (Response.toJson response))

/-- The profile with an ICCID, if the server has one. -/
def getStatus (c : Client σ) (iccid : String) : Call σ (Option ProfileStatus) := do
  let response : ProfileStatusResponse ← c.execute (.getProfileStatus iccid)
  match response.profiles with
  | [] => return none
  | [p] => return some p
  | ps => throw (.multipleProfiles iccid ps.length)

/-- Asks to move a profile back to a state. -/
def recoverProfile (c : Client σ) (iccid target : String) : Call σ RecoverProfileResponse :=
  c.execute (.recoverProfile iccid target)

/-- Asks to cancel an order and to leave the profile in a state. -/
def cancelOrder (c : Client σ) (iccid target : String) : Call σ CancelOrderResponse :=
  c.execute (.cancelOrder iccid target)

/-- Reserves a profile for download. -/
def downloadOrder (c : Client σ) (iccid : String) : Call σ DownloadOrderResponse := do
  requireSuccess .downloadOrder (← c.execute (.downloadOrder iccid))

/-- Confirms a reserved profile, and releases it. -/
def confirmOrder (c : Client σ) (iccid : String) : Call σ ConfirmOrderResponse := do
  requireSuccess .confirmOrder (← c.execute (.confirmOrder iccid))

end Client

end Provisioning.Es2
