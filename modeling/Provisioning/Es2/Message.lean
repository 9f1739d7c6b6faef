import Provisioning.Text.Quoted
import Provisioning.Json.Value
import Provisioning.Es2.Command
import Provisioning.Es2.ProfileState
/-!
# Messages of the ES2+ interface

* `Request` : what is asked; `Request.body` is the document that asks it;
* `ResponseHeader` : whether a function was executed, and why not;
* `ProfileStatus` : what the server knows of one profile;
* the responses of the functions.

What a server leaves out of a response is empty.
-/

namespace Provisioning.Es2

/-! ## Requests -/

structure RequestHeader where
  requesterId : String
  callId : String
  deriving DecidableEq, Repr

inductive Request
  | getProfileStatus (iccid : String)
  | recoverProfile (iccid target : String)
  | cancelOrder (iccid target : String)
  | downloadOrder (iccid : String)
  /-- Asks to release the profile as well. -/
  | confirmOrder (iccid : String)
  deriving DecidableEq, Repr

namespace Request

def command : Request → Command
  | getProfileStatus _ => .getProfileStatus
  | recoverProfile _ _ => .recoverProfile
  | cancelOrder _ _ => .cancelOrder
  | downloadOrder _ => .downloadOrder
  | confirmOrder _ => .confirmOrder

def members : Request → List (String × Json)
  | getProfileStatus iccid => [("iccidList", .array [.object [("iccid", .string iccid)]])]
  | recoverProfile iccid target => [("iccid", .string iccid), ("profileStatus", .string target)]
  | cancelOrder iccid target =>
    [("iccid", .string iccid), ("finalProfileStatusIndicator", .string target)]
  | downloadOrder iccid => [("iccid", .string iccid)]
  | confirmOrder iccid => [("iccid", .string iccid), ("releaseFlag", .bool true)]

def header (h : RequestHeader) : Json :=
  .object [("functionRequesterIdentifier", .string h.requesterId),
    ("functionCallIdentifier", .string h.callId)]

def body (r : Request) (h : RequestHeader) : Json := .object (("header", header h) :: r.members)

end Request

/-! ## Responses -/

structure StatusCodeData where
  subjectCode : String := ""
  reasonCode : String := ""
  subjectIdentifier : String := ""
  message : String := ""
  deriving DecidableEq, Repr

/-- On one line, the message quoted. -/
def StatusCodeData.summary (d : StatusCodeData) : String :=
  "subject=" ++ d.subjectCode ++ " reason=" ++ d.reasonCode ++ " id=" ++ d.subjectIdentifier
    ++ " message=" ++ Text.quote d.message

structure ExecutionStatus where
  status : String := ""
  statusCodeData : StatusCodeData := {}
  deriving DecidableEq, Repr

def executedSuccess : String := "Executed-Success"

def ExecutionStatus.isSuccess (s : ExecutionStatus) : Bool := s.status == executedSuccess

structure ResponseHeader where
  executionStatus : ExecutionStatus := {}
  deriving DecidableEq, Repr

structure ProfileStatus where
  lastUpdate : String := ""
  /-- The activation code, empty until the server gives one. -/
  acToken : String := ""
  state : ProfileState := .other ""
  eid : String := ""
  iccid : String := ""
  lockFlag : Bool := false
  deriving DecidableEq, Repr

def ProfileStatus.activationCode? (p : ProfileStatus) : Option String :=
  if p.acToken.isEmpty then none else some p.acToken

structure ProfileStatusResponse where
  header : ResponseHeader := {}
  profiles : List ProfileStatus := []
  completionTimestamp : String := ""
  deriving DecidableEq, Repr

structure RecoverProfileResponse where
  header : ResponseHeader := {}
  deriving DecidableEq, Repr

structure CancelOrderResponse where
  header : ResponseHeader := {}
  deriving DecidableEq, Repr

structure DownloadOrderResponse where
  header : ResponseHeader := {}
  iccid : String := ""
  deriving DecidableEq, Repr

structure ConfirmOrderResponse where
  header : ResponseHeader := {}
  iccid : String := ""
  eid : Option String := none
  matchingId : Option String := none
  smdpAddress : Option String := none
  deriving DecidableEq, Repr

end Provisioning.Es2
