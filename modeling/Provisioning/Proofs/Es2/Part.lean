import Provisioning.Es2.Codec
import Provisioning.Proofs.Json.Record
import Provisioning.Proofs.Json.Text
/-!
# What counts in a response

A response is made of records. Servers order their members as they like, add others, and write
`null` for what they leave out; none of this changes what is read.

* `StatusCodeData.Same` and the like : values of a record that say the same;
* `StatusCodeData.respects` and the like : such values are read alike;
* `Part` : the records that responses are made of, and the responses; `Part.Value`, `Part.decoder`,
  `Part.toJson` and `Part.Same` are what there is of each;
* `Part.decode_same` : two texts that say the same are read alike.
-/

namespace Provisioning.Es2
open Json Utf8

variable {σ : Type}

/-! ## Fields -/

theorem takes_text (name : String) (set : σ → String → σ) :
    (textField name set).Takes (name, SameLeaf) :=
  RecordField.takes_of (orDefault_respects string_respects SameLeaf.nullAlone "") set

theorem takes_optional (name : String) (set : σ → Option String → σ) :
    (optionalField name set).Takes (name, SameLeaf) :=
  RecordField.takes_of (optional_respects string_respects SameLeaf.nullAlone) set

/-! ## Headers -/

namespace StatusCodeData

def Same : Tree → Tree → Prop :=
  SameRecord [("subjectCode", SameLeaf), ("reasonCode", SameLeaf), ("subjectIdentifier", SameLeaf),
    ("message", SameLeaf)]

theorem respects : decoder.Respects Same := by
  refine record_respects ⟨by decide, ?_, ?_⟩ ?_
  · simp [textField, RecordField.commutes_of]
  · simp [textField, RecordField.of, Decoder.orDefault, Except.map]
  · exact .cons (takes_text _ _) (.cons (takes_text _ _) (.cons (takes_text _ _)
      (.cons (takes_text _ _) .nil)))

end StatusCodeData

namespace ExecutionStatus

def Same : Tree → Tree → Prop :=
  SameRecord [("status", SameLeaf), ("statusCodeData", StatusCodeData.Same)]

theorem respects : decoder.Respects Same := by
  refine record_respects ⟨by decide, ?_, ?_⟩ ?_
  · simp [textField, RecordField.commutes_of]
  · simp [textField, RecordField.of, Decoder.orDefault, Except.map]
  · exact .cons (takes_text _ _) (.cons
      (RecordField.takes_of (orDefault_respects StatusCodeData.respects SameRecord.nullAlone _) _)
      .nil)

end ExecutionStatus

namespace ResponseHeader

def Same : Tree → Tree → Prop := SameRecord [("functionExecutionStatus", ExecutionStatus.Same)]

theorem respects : decoder.Respects Same := by
  refine record_respects ⟨by decide, ?_, ?_⟩ ?_
  · simp
  · simp [RecordField.of, Decoder.orDefault, Except.map]
  · exact .cons
      (RecordField.takes_of (orDefault_respects ExecutionStatus.respects SameRecord.nullAlone _) _)
      .nil

end ResponseHeader

theorem takes_header (set : σ → ResponseHeader → σ) :
    (headerField set).Takes ("header", ResponseHeader.Same) :=
  RecordField.takes_of (orDefault_respects ResponseHeader.respects SameRecord.nullAlone _) set

theorem record_header_respects {set : σ → ResponseHeader → σ} {default : σ}
    (h : set default {} = default) :
    (Decoder.record [headerField set] default).Respects
      (SameRecord [("header", ResponseHeader.Same)]) := by
  refine record_respects ⟨by simp, List.pairwise_singleton _ _, ?_⟩
    (.cons (takes_header set) .nil)
  intro f hf
  obtain rfl := List.mem_singleton.mp hf
  exact congrArg Except.ok h

/-! ## Profiles -/

namespace ProfileStatus

def Same : Tree → Tree → Prop :=
  SameRecord [("status_last_update_timestamp", SameLeaf), ("acToken", SameLeaf),
    ("state", SameLeaf), ("eid", SameLeaf), ("iccid", SameLeaf), ("lockFlag", SameLeaf)]

theorem respects : decoder.Respects Same := by
  have hstate : ProfileState.decoder.Respects SameLeaf :=
    map_respects string_respects ProfileState.ofName
  refine record_respects ⟨by decide, ?_, ?_⟩ ?_
  · simp [textField, RecordField.commutes_of]
  · simp [textField, RecordField.of, Decoder.orDefault, Except.map]
  · exact .cons (takes_text _ _) (.cons (takes_text _ _) (.cons
      (RecordField.takes_of (orDefault_respects hstate SameLeaf.nullAlone _) _)
      (.cons (takes_text _ _) (.cons (takes_text _ _) (.cons
        (RecordField.takes_of (orDefault_respects bool_respects SameLeaf.nullAlone _) _) .nil)))))

end ProfileStatus

/-! ## Responses -/

namespace ProfileStatusResponse

def Same : Tree → Tree → Prop :=
  SameRecord [("header", ResponseHeader.Same), ("profileStatusList", SameList ProfileStatus.Same),
    ("completionTimestamp", SameLeaf)]

theorem respects : (Response.decoder : Decoder ProfileStatusResponse).Respects Same := by
  have hlist := list_respects ProfileStatus.respects
  refine record_respects ⟨by decide, ?_, ?_⟩ ?_
  · simp [textField, headerField, RecordField.commutes_of]
  · simp [textField, headerField, RecordField.of, Decoder.orDefault, Except.map]
  · exact .cons (takes_header _) (.cons
      (RecordField.takes_of (orDefault_respects hlist SameList.nullAlone _) _)
      (.cons (takes_text _ _) .nil))

end ProfileStatusResponse

namespace RecoverProfileResponse

def Same : Tree → Tree → Prop := SameRecord [("header", ResponseHeader.Same)]

theorem respects : (Response.decoder : Decoder RecoverProfileResponse).Respects Same :=
  record_header_respects rfl

end RecoverProfileResponse

namespace CancelOrderResponse

def Same : Tree → Tree → Prop := SameRecord [("header", ResponseHeader.Same)]

theorem respects : (Response.decoder : Decoder CancelOrderResponse).Respects Same :=
  record_header_respects rfl

end CancelOrderResponse

namespace DownloadOrderResponse

def Same : Tree → Tree → Prop :=
  SameRecord [("header", ResponseHeader.Same), ("iccid", SameLeaf)]

theorem respects : (Response.decoder : Decoder DownloadOrderResponse).Respects Same := by
  refine record_respects ⟨by decide, ?_, ?_⟩ ?_
  · simp [textField, headerField, RecordField.commutes_of]
  · simp [textField, headerField, RecordField.of, Decoder.orDefault, Except.map]
  · exact .cons (takes_header _) (.cons (takes_text _ _) .nil)

end DownloadOrderResponse

namespace ConfirmOrderResponse

def Same : Tree → Tree → Prop :=
  SameRecord [("header", ResponseHeader.Same), ("iccid", SameLeaf), ("eid", SameLeaf),
    ("matchingId", SameLeaf), ("smdpAddress", SameLeaf)]

theorem respects : (Response.decoder : Decoder ConfirmOrderResponse).Respects Same := by
  refine record_respects ⟨by decide, ?_, ?_⟩ ?_
  · simp [textField, headerField, optionalField, RecordField.commutes_of]
  · simp [textField, headerField, optionalField, RecordField.of, Decoder.orDefault,
      Decoder.optional, Except.map]
  · exact .cons (takes_header _) (.cons (takes_text _ _) (.cons (takes_optional _ _)
      (.cons (takes_optional _ _) (.cons (takes_optional _ _) .nil))))

end ConfirmOrderResponse

/-! ## All of them -/

/-- The records that responses are made of, and the responses. -/
inductive Part
  | statusCodeData
  | executionStatus
  | responseHeader
  | profileStatus
  | profileStatusResponse
  | recoverProfileResponse
  | cancelOrderResponse
  | downloadOrderResponse
  | confirmOrderResponse

namespace Part

abbrev Value : Part → Type
  | statusCodeData => StatusCodeData
  | executionStatus => ExecutionStatus
  | responseHeader => ResponseHeader
  | profileStatus => ProfileStatus
  | profileStatusResponse => ProfileStatusResponse
  | recoverProfileResponse => RecoverProfileResponse
  | cancelOrderResponse => CancelOrderResponse
  | downloadOrderResponse => DownloadOrderResponse
  | confirmOrderResponse => ConfirmOrderResponse

def decoder : (p : Part) → Decoder p.Value
  | statusCodeData => StatusCodeData.decoder
  | executionStatus => ExecutionStatus.decoder
  | responseHeader => ResponseHeader.decoder
  | profileStatus => ProfileStatus.decoder
  | profileStatusResponse => Response.decoder
  | recoverProfileResponse => Response.decoder
  | cancelOrderResponse => Response.decoder
  | downloadOrderResponse => Response.decoder
  | confirmOrderResponse => Response.decoder

def toJson : (p : Part) → p.Value → Json
  | statusCodeData => StatusCodeData.toJson
  | executionStatus => ExecutionStatus.toJson
  | responseHeader => ResponseHeader.toJson
  | profileStatus => ProfileStatus.toJson
  | profileStatusResponse => Response.toJson
  | recoverProfileResponse => Response.toJson
  | cancelOrderResponse => Response.toJson
  | downloadOrderResponse => Response.toJson
  | confirmOrderResponse => Response.toJson

/-- What has to be the same in two values of a part. -/
def Same : Part → Tree → Tree → Prop
  | statusCodeData => StatusCodeData.Same
  | executionStatus => ExecutionStatus.Same
  | responseHeader => ResponseHeader.Same
  | profileStatus => ProfileStatus.Same
  | profileStatusResponse => ProfileStatusResponse.Same
  | recoverProfileResponse => RecoverProfileResponse.Same
  | cancelOrderResponse => CancelOrderResponse.Same
  | downloadOrderResponse => DownloadOrderResponse.Same
  | confirmOrderResponse => ConfirmOrderResponse.Same

theorem respects (p : Part) : p.decoder.Respects p.Same := by
  cases p with
  | statusCodeData => exact StatusCodeData.respects
  | executionStatus => exact ExecutionStatus.respects
  | responseHeader => exact ResponseHeader.respects
  | profileStatus => exact ProfileStatus.respects
  | profileStatusResponse => exact ProfileStatusResponse.respects
  | recoverProfileResponse => exact RecoverProfileResponse.respects
  | cancelOrderResponse => exact CancelOrderResponse.respects
  | downloadOrderResponse => exact DownloadOrderResponse.respects
  | confirmOrderResponse => exact ConfirmOrderResponse.respects

/-- Two texts of a part that say the same are both read, to one value, or neither is: the order of
their members, members that are not known, and `null` for what is left out do not count. -/
theorem decode_same (p : Part) {s s' : List UInt8} {t t' : Tree} (hs : parse s = (t, []))
    (hs' : parse s' = (t', [])) (h : p.Same t t') :
    (decode p.decoder s).toOption = (decode p.decoder s').toOption := by
  unfold decode
  rw [hs, hs']
  dsimp only
  rw [toOption_bind, toOption_bind, p.respects h]

def plainText : List UInt8 :=
  encodeText "\x7b\"header\":\x7b\x7d,\"profileStatusList\":[\x7b\"iccid\":\"1\"\x7d]\x7d"

def plainTree : Tree :=
  .object [(bodyOf "header", .object [] none),
    (bodyOf "profileStatusList",
      .array [.object [(bodyOf "iccid", .string (bodyOf "1"))] none] none)] none

/-- The same list, with members in another order, others between them, and `null`. -/
def paddedText : List UInt8 :=
  encodeText ("\x7b \"more\" : [ \"\\ud800\", 1e999 ], \"profileStatusList\" : [ \x7b " ++
    "\"eid\" : null, \"iccid\" : \"\\u0031\" \x7d ], \"completionTimestamp\" : null, " ++
    "\"header\" : \x7b\x7d \x7d")

def paddedTree : Tree :=
  .object [(bodyOf "more", .array [.string (encodeText "\\ud800"), .number (encodeText "1e999")]
      none),
    (bodyOf "profileStatusList", .array [.object [(bodyOf "eid", .null),
      (bodyOf "iccid", .string (encodeText "\\u0031"))] none] none),
    (bodyOf "completionTimestamp", .null), (bodyOf "header", .object [] none)] none

theorem parse_plainText : parse plainText = (plainTree, []) := by
  have htokens : tokens plainText =
      [.openObject, .string (bodyOf "header"), .colon, .openObject, .closeObject, .comma,
        .string (bodyOf "profileStatusList"), .colon, .openArray, .openObject,
        .string (bodyOf "iccid"), .colon, .string (bodyOf "1"), .closeObject, .closeArray,
        .closeObject] := by
    decide +kernel
  unfold parse
  rw [htokens]
  rfl

theorem parse_paddedText : parse paddedText = (paddedTree, []) := by
  have htokens : tokens paddedText =
      [.openObject, .string (bodyOf "more"), .colon, .openArray, .string (encodeText "\\ud800"),
        .comma, .number (encodeText "1e999"), .closeArray, .comma,
        .string (bodyOf "profileStatusList"), .colon, .openArray, .openObject,
        .string (bodyOf "eid"), .colon, .null, .comma, .string (bodyOf "iccid"), .colon,
        .string (encodeText "\\u0031"), .closeObject, .closeArray, .comma,
        .string (bodyOf "completionTimestamp"), .colon, .null, .comma, .string (bodyOf "header"),
        .colon, .openObject, .closeObject, .closeObject] := by
    decide +kernel
  unfold parse
  rw [htokens]
  rfl

theorem same_padded : profileStatusResponse.Same plainTree paddedTree := by
  have hiccid : SameLeaf (.string (bodyOf "1")) (.string (encodeText "\\u0031")) :=
    .scalar (.string (by decide +kernel))
  have hrow : ProfileStatus.Same (.object [(bodyOf "iccid", .string (bodyOf "1"))] none)
      (.object [(bodyOf "eid", .null), (bodyOf "iccid", .string (encodeText "\\u0031"))] none) := by
    refine .object ?_ ?_ ?_
    · constructor <;> simp [text_bodyOf, keyOf?, Except.toOption]
    · constructor <;> simp [text_bodyOf, keyOf?, Except.toOption]
    · simp [given?, keyOf?, text_bodyOf, Except.toOption, hiccid]
  have hheader : ResponseHeader.Same (.object [] none) (.object [] none) :=
    .object ⟨by simp, by simp, .nil⟩ ⟨by simp, by simp, .nil⟩ (by simp [given?])
  refine .object ?_ ?_ ?_
  · constructor <;> simp [text_bodyOf, keyOf?, Except.toOption]
  · constructor
    · simp [text_bodyOf]
    · have hmore : Tree.IsWhole (.array [.string (encodeText "\\ud800"),
          .number (encodeText "1e999")] none) :=
        .array (by simp [Tree.IsWhole.string, Tree.IsWhole.number])
      simp [text_bodyOf, keyOf?, Except.toOption, hmore]
    · simp [text_bodyOf, keyOf?, Except.toOption]
  · have hlist : SameList ProfileStatus.Same _ _ := .array (.cons hrow .nil)
    simp [given?, keyOf?, text_bodyOf, Except.toOption, hheader, hlist]

theorem decode_same_padded :
    parse plainText = (plainTree, []) ∧ parse paddedText = (paddedTree, []) ∧
      profileStatusResponse.Same plainTree paddedTree ∧
      (decode profileStatusResponse.decoder plainText).toOption =
        (decode profileStatusResponse.decoder paddedText).toOption :=
  ⟨parse_plainText, parse_paddedText, same_padded,
    decode_same profileStatusResponse parse_plainText parse_paddedText same_padded⟩

end Part

end Provisioning.Es2
