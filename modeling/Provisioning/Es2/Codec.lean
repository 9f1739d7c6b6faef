import Provisioning.Json.Decode
import Provisioning.Es2.Message
/-!
# Responses as documents

* `Response` : what every response has: a header, a decoder and a document;
* a decoder and a document for each part of a response.

In a response, `null` is the same as nothing, but for the profiles of a list.
-/

namespace Provisioning.Es2
open Json (Decoder RecordField)

/-! ## Fields -/

/-- A text, empty for `null`. -/
def textField {σ : Type} (name : String) (set : σ → String → σ) : RecordField σ :=
  .of name (Decoder.orDefault "" Decoder.string) set

def optionalField {σ : Type} (name : String) (set : σ → Option String → σ) : RecordField σ :=
  .of name (Decoder.optional Decoder.string) set

/-- A member for a text that is there. -/
def optionalMember (name : String) : Option String → List (String × Json)
  | none => []
  | some s => [(name, .string s)]

/-! ## Headers -/

namespace StatusCodeData

def decoder : Decoder StatusCodeData :=
  Decoder.record [
    textField "subjectCode" fun d s => { d with subjectCode := s },
    textField "reasonCode" fun d s => { d with reasonCode := s },
    textField "subjectIdentifier" fun d s => { d with subjectIdentifier := s },
    textField "message" fun d s => { d with message := s }] {}

def toJson (d : StatusCodeData) : Json :=
  .object [("subjectCode", .string d.subjectCode), ("reasonCode", .string d.reasonCode),
    ("subjectIdentifier", .string d.subjectIdentifier), ("message", .string d.message)]

end StatusCodeData

namespace ExecutionStatus

def decoder : Decoder ExecutionStatus :=
  Decoder.record [
    textField "status" fun e s => { e with status := s },
    .of "statusCodeData" (Decoder.orDefault {} StatusCodeData.decoder)
      fun e d => { e with statusCodeData := d }] {}

def toJson (e : ExecutionStatus) : Json :=
  .object [("status", .string e.status), ("statusCodeData", e.statusCodeData.toJson)]

end ExecutionStatus

namespace ResponseHeader

def decoder : Decoder ResponseHeader :=
  Decoder.record [
    .of "functionExecutionStatus" (Decoder.orDefault {} ExecutionStatus.decoder)
      fun h e => { h with executionStatus := e }] {}

def toJson (h : ResponseHeader) : Json :=
  .object [("functionExecutionStatus", h.executionStatus.toJson)]

end ResponseHeader

def headerField {σ : Type} (set : σ → ResponseHeader → σ) : RecordField σ :=
  .of "header" (Decoder.orDefault {} ResponseHeader.decoder) set

/-! ## Profiles -/

namespace ProfileState

def decoder : Decoder ProfileState := fun t => (Decoder.string t).map ofName

def toJson (s : ProfileState) : Json := .string s.name

end ProfileState

namespace ProfileStatus

def decoder : Decoder ProfileStatus :=
  Decoder.record [
    textField "status_last_update_timestamp" fun p s => { p with lastUpdate := s },
    textField "acToken" fun p s => { p with acToken := s },
    .of "state" (Decoder.orDefault (.other "") ProfileState.decoder)
      fun p s => { p with state := s },
    textField "eid" fun p s => { p with eid := s },
    textField "iccid" fun p s => { p with iccid := s },
    .of "lockFlag" (Decoder.orDefault false Decoder.bool) fun p b => { p with lockFlag := b }] {}

def toJson (p : ProfileStatus) : Json :=
  .object [("status_last_update_timestamp", .string p.lastUpdate), ("acToken", .string p.acToken),
    ("state", p.state.toJson), ("eid", .string p.eid), ("iccid", .string p.iccid),
    ("lockFlag", .bool p.lockFlag)]

end ProfileStatus

/-! ## Responses -/

class Response (α : Type) where
  header : α → ResponseHeader
  decoder : Decoder α
  toJson : α → Json

def isSuccess {α : Type} [Response α] (a : α) : Bool :=
  (Response.header a).executionStatus.isSuccess

instance : Response ResponseHeader where
  header := id
  decoder := ResponseHeader.decoder
  toJson := ResponseHeader.toJson

instance : Response ProfileStatusResponse where
  header := (·.header)
  decoder :=
    Decoder.record [
      headerField fun r h => { r with header := h },
      .of "profileStatusList" (Decoder.orDefault [] (Decoder.list ProfileStatus.decoder))
        fun r ps => { r with profiles := ps },
      textField "completionTimestamp" fun r s => { r with completionTimestamp := s }] {}
  toJson r :=
    .object [("header", r.header.toJson),
      ("profileStatusList", .array (r.profiles.map ProfileStatus.toJson)),
      ("completionTimestamp", .string r.completionTimestamp)]

instance : Response RecoverProfileResponse where
  header := (·.header)
  decoder := Decoder.record [headerField fun r h => { r with header := h }] {}
  toJson r := .object [("header", r.header.toJson)]

instance : Response CancelOrderResponse where
  header := (·.header)
  decoder := Decoder.record [headerField fun r h => { r with header := h }] {}
  toJson r := .object [("header", r.header.toJson)]

instance : Response DownloadOrderResponse where
  header := (·.header)
  decoder :=
    Decoder.record [
      headerField fun r h => { r with header := h },
      textField "iccid" fun r s => { r with iccid := s }] {}
  toJson r := .object [("header", r.header.toJson), ("iccid", .string r.iccid)]

instance : Response ConfirmOrderResponse where
  header := (·.header)
  decoder :=
    Decoder.record [
      headerField fun r h => { r with header := h },
      textField "iccid" fun r s => { r with iccid := s },
      optionalField "eid" fun r s => { r with eid := s },
      optionalField "matchingId" fun r s => { r with matchingId := s },
      optionalField "smdpAddress" fun r s => { r with smdpAddress := s }] {}
  toJson r :=
    .object ([("header", r.header.toJson), ("iccid", .string r.iccid)]
      ++ optionalMember "eid" r.eid ++ optionalMember "matchingId" r.matchingId
      ++ optionalMember "smdpAddress" r.smdpAddress)

end Provisioning.Es2
