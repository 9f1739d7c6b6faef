import Provisioning.Proofs.Es2.Activation
import Provisioning.Proofs.Es2.Document
import Provisioning.Proofs.Es2.Part
/-!
# What is read is read again

A part that is read from any text has a document, and the document is read as the same part. So the
response that a failed order hands on is the one that the server sent.

* `ProfileStatus.isNamed_of_read` : the state of a profile that is read comes from a name;
* `Part.decode_toJson` : a part that is read is read again from its document;
* `Reports` : what a failure says of a reply;
* `Client.Refused` : a function that the server did not execute, or a failure handed on;
* `Client.failures_reread` : the failures of orders and confirmations;
* `Client.Refused.reports_of_https` : over HTTPS, no failure is handed on.
-/

namespace Provisioning.Json

variable {α : Type}

theorem read_of_decode {read : Decoder α} {body : List UInt8} {a : α}
    (h : decode read body = .ok a) : ∃ t, read t = .ok a := by
  unfold decode at h
  obtain ⟨b, hread, h⟩ := bind_eq_ok h
  split at h
  · exact ⟨_, Except.ok.inj h ▸ hread⟩
  · cases h

theorem mem_of_mapM_ok {item : Decoder α} {ts : List Tree} {as : List α}
    (h : ts.mapM item = .ok as) {a : α} (ha : a ∈ as) : ∃ t, item t = .ok a := by
  induction ts generalizing as with
  | nil =>
    cases Except.ok.inj h
    cases ha
  | cons t ts ih =>
    rw [List.mapM_cons] at h
    obtain ⟨b, hb, h⟩ := bind_eq_ok h
    obtain ⟨bs, hbs, h⟩ := bind_eq_ok h
    cases Except.ok.inj h
    rcases List.mem_cons.mp ha with rfl | ha
    · exact ⟨t, hb⟩
    · exact ih hbs ha

theorem mem_of_read_list {item : Decoder α} {t : Tree} {as : List α}
    (h : Decoder.list item t = .ok as) {a : α} (ha : a ∈ as) : ∃ t, item t = .ok a := by
  unfold Decoder.list at h
  split at h
  · obtain ⟨bs, hbs, h⟩ := bind_eq_ok h
    obtain ⟨-, -, h⟩ := bind_eq_ok h
    cases Except.ok.inj h
    exact mem_of_mapM_ok hbs ha
  · cases h

theorem orDefault_cases {read : Decoder α} {default a : α} {t : Tree}
    (h : Decoder.orDefault default read t = .ok a) : a = default ∨ read t = .ok a := by
  unfold Decoder.orDefault at h
  split at h
  · exact .inl (Except.ok.inj h).symm
  · exact .inr h

end Provisioning.Json

namespace Provisioning.Es2
open Json

variable {σ α : Type}

/-! ## Names of states -/

namespace ProfileStatus

theorem isNamed_of_read {t : Tree} {p : ProfileStatus} (h : decoder t = .ok p) : p.IsNamed := by
  have htext : ∀ {name : String} {set : ProfileStatus → String → ProfileStatus},
      (∀ p s, (set p s).state = p.state) → ∀ p t p', IsNamed p →
      (textField name set).put p t = .ok p' → IsNamed p' := by
    intro name set hset p t p' hp hput
    obtain ⟨s, -, rfl⟩ := RecordField.put_of_eq_ok hput
    unfold IsNamed
    rw [hset]
    exact hp
  refine record_keeps (P := IsNamed) ?_ ⟨"", rfl⟩ h
  simp only [List.forall_mem_cons, List.not_mem_nil, false_implies, implies_true, and_true]
  refine ⟨htext fun _ _ => rfl, htext fun _ _ => rfl, ?_, htext fun _ _ => rfl,
    htext fun _ _ => rfl, ?_⟩
  · intro p t p' hp hput
    obtain ⟨state, hstate, rfl⟩ := RecordField.put_of_eq_ok hput
    rcases orDefault_cases hstate with rfl | hread
    · exact ⟨"", rfl⟩
    · unfold ProfileState.decoder at hread
      cases hname : Decoder.string t with
      | error e =>
        rw [hname] at hread
        cases hread
      | ok name =>
        rw [hname] at hread
        exact ⟨name, (Except.ok.inj hread).symm⟩
  · intro p t p' hp hput
    obtain ⟨b, -, rfl⟩ := RecordField.put_of_eq_ok hput
    exact hp

end ProfileStatus

theorem ProfileStatusResponse.isNamed_of_read {t : Tree} {r : ProfileStatusResponse}
    (h : Response.decoder t = .ok r) : ∀ p ∈ r.profiles, p.IsNamed := by
  refine record_keeps (P := fun r : ProfileStatusResponse => ∀ p ∈ r.profiles, p.IsNamed) ?_
    (by simp) h
  simp only [List.forall_mem_cons, List.not_mem_nil, false_implies, implies_true, and_true]
  refine ⟨?_, ?_, ?_⟩
  · intro r t r' hr hput
    obtain ⟨header, -, rfl⟩ := RecordField.put_of_eq_ok hput
    exact hr
  · intro r t r' hr hput
    obtain ⟨ps, hps, rfl⟩ := RecordField.put_of_eq_ok hput
    rcases orDefault_cases hps with rfl | hread
    · simp
    · intro p hp
      obtain ⟨u, hu⟩ := mem_of_read_list hread hp
      exact ProfileStatus.isNamed_of_read hu
  · intro r t r' hr hput
    obtain ⟨s, -, rfl⟩ := RecordField.put_of_eq_ok hput
    exact hr

/-! ## Documents -/

theorem read_header_alone (set : σ → ResponseHeader → σ) (s : σ) (h : ResponseHeader) :
    Decoder.record [headerField set] s (treeOf (.object [("header", h.toJson)])) =
      .ok (set s h) := by
  apply record_object
  refine members_cons rfl rfl (put_headerField _ _ _) ?_
  rfl

theorem RecoverProfileResponse.reads (r : RecoverProfileResponse) : Reads r :=
  Reads.of_tree ⟨r.header.isNumberless, trivial⟩ (read_header_alone _ _ _)

theorem CancelOrderResponse.reads (r : CancelOrderResponse) : Reads r :=
  Reads.of_tree ⟨r.header.isNumberless, trivial⟩ (read_header_alone _ _ _)

theorem StatusCodeData.isNumberless (d : StatusCodeData) : IsNumberless d.toJson := by
  simp [StatusCodeData.toJson, IsNumberless, MembersNumberless]

theorem ExecutionStatus.isNumberless (e : ExecutionStatus) : IsNumberless e.toJson := by
  simp [ExecutionStatus.toJson, StatusCodeData.isNumberless, IsNumberless, MembersNumberless]

theorem Part.decode_toJson (p : Part) {body : List UInt8} {a : p.Value}
    (h : decode p.decoder body = .ok a) :
    decode p.decoder (Utf8.encodeText (p.toJson a).compact) = .ok a := by
  obtain ⟨t, ht⟩ := read_of_decode h
  cases p with
  | statusCodeData => exact (decode_compact a.isNumberless _).trans a.read_toJson
  | executionStatus => exact (decode_compact a.isNumberless _).trans a.read_toJson
  | responseHeader => exact (decode_compact a.isNumberless _).trans a.read_toJson
  | profileStatus =>
    exact (decode_compact a.isNumberless _).trans
      (ProfileStatus.read_toJson (ProfileStatus.isNamed_of_read ht))
  | profileStatusResponse =>
    exact ProfileStatusResponse.reads (ProfileStatusResponse.isNamed_of_read ht)
  | recoverProfileResponse => exact RecoverProfileResponse.reads a
  | cancelOrderResponse => exact CancelOrderResponse.reads a
  | downloadOrderResponse => exact DownloadOrderResponse.reads a
  | confirmOrderResponse => exact ConfirmOrderResponse.reads a

/-! ## Failures -/

/-- What a failure says of a reply: the status and the data of the response in it, which is no
success, and a document that is read as that response. -/
def Reports (α : Type) [Response α] (reply : Reply) (status : String) (data : StatusCodeData)
    (document : Json) : Prop :=
  ∃ a : α, decode Response.decoder reply.body = .ok a ∧
    status = (Response.header a).executionStatus.status ∧
    data = (Response.header a).executionStatus.statusCodeData ∧ status ≠ executedSuccess ∧
    decode (Response.decoder : Decoder α) (Utf8.encodeText document.compact) = .ok a

theorem reports_of_executed [Response α] (hreads : ∀ a : α, Reads a) {reply : Reply} {a : α}
    (hread : decode Response.decoder reply.body = .ok a) {command command' : Command}
    {status : String} {data : StatusCodeData} {document : Json}
    (h : executed command a = .error (.commandFailed command' status data document)) :
    command' = command ∧ Reports α reply status data document := by
  unfold executed at h
  by_cases hsuccess : isSuccess a = true
  · rw [if_pos hsuccess] at h
    cases h
  · rw [if_neg hsuccess] at h
    cases h
    refine ⟨rfl, a, hread, rfl, rfl, ?_, hreads a⟩
    intro heq
    exact hsuccess (beq_iff_eq.mpr heq)

/-- A request that the server did not execute, as it says in its reply; or a failure that the
transport has handed on. -/
def Client.Refused (α : Type) [Response α] (c : Client σ) (request : Request) (s : Session σ)
    (command : Command) (status : String) (data : StatusCodeData) (document : Json) : Prop :=
  ∃ callId, c.callIds s.draws = .ok callId ∧
    (c.replyTo request callId s = .error (.commandFailed command status data document) ∨
      ∃ reply, c.replyTo request callId s = .ok reply ∧ command = request.command ∧
        Reports α reply status data document)

theorem Exchange.Happens.replyTo {c : Client σ} {x : Exchange} {s t : Session σ}
    (h : x.Happens c s t) :
    (∃ why, c.callIds s.draws = .error why ∧ x.reply = .error (.callId why)) ∨
      ∃ callId, c.callIds s.draws = .ok callId ∧ c.replyTo x.request callId s = x.reply := by
  cases h with
  | undrawn hdraw hdraws hposted hremote => exact .inl ⟨_, hdraw, rfl⟩
  | @posted _ _ _ callId reply es hdraw hdraws hposted hpost =>
    refine .inr ⟨callId, hdraw, ?_⟩
    unfold Client.replyTo
    rw [hpost]

theorem Client.refused_of_commandFailed [Response α] (hreads : ∀ a : α, Reads a) (c : Client σ)
    (request : Request) {s : Session σ} {command : Command} {status : String}
    {data : StatusCodeData} {document : Json}
    (h : (runOn (c.execute request >>= requireSuccess request.command : Call σ α) s).1 =
      .error (.commandFailed command status data document)) :
    c.Refused α request s command status data document := by
  obtain ⟨x, t, rfl, hx, hrun⟩ := c.execute_requireSuccess_happens (α := α) request s
  rw [hrun] at h
  rcases hx.replyTo with ⟨why, -, hwhy⟩ | ⟨callId, hdraw, hreply⟩
  · rw [hwhy] at h
    cases h
  · refine ⟨callId, hdraw, ?_⟩
    rw [hreply]
    cases hr : x.reply with
    | error e =>
      rw [hr] at h
      cases h
      exact .inl rfl
    | ok reply =>
      rw [hr] at h
      rcases settle_ok_cases α x.request.command reply with ⟨a, hread, ha⟩ | ⟨fault, hfault⟩
      · rw [ha] at h
        exact .inr ⟨reply, rfl, reports_of_executed hreads hread h⟩
      · rw [hfault] at h
        cases h

/-- A part that is read from a text is read again from its document. When an order or a confirmation
fails since the server did not execute it, the failure has the status and the data of the reply,
which is no success, and all of the response in it. -/
theorem Client.failures_reread (c : Client σ) (iccid : String) (s : Session σ) :
    (∀ (p : Part) (body : List UInt8) (a : p.Value), decode p.decoder body = .ok a →
      decode p.decoder (Utf8.encodeText (p.toJson a).compact) = .ok a) ∧
    ∀ (command : Command) (status : String) (data : StatusCodeData) (document : Json),
      ((runOn (c.downloadOrder iccid) s).1 = .error (.commandFailed command status data document) →
        c.Refused DownloadOrderResponse (.downloadOrder iccid) s command status data document) ∧
      ((runOn (c.confirmOrder iccid) s).1 = .error (.commandFailed command status data document) →
        c.Refused ConfirmOrderResponse (.confirmOrder iccid) s command status data document) := by
  refine ⟨fun p body a h => p.decode_toJson h, fun command status data document => ⟨?_, ?_⟩⟩
  · intro h
    exact c.refused_of_commandFailed DownloadOrderResponse.reads (.downloadOrder iccid) h
  · intro h
    exact c.refused_of_commandFailed ConfirmOrderResponse.reads (.confirmOrder iccid) h

/-- The reply of a server that does not confirm an order. -/
def refusedReply : Reply where
  status := 200
  adminProtocol := some adminProtocol
  body := Utf8.encodeText ("\x7b\"header\":\x7b\"functionExecutionStatus\":" ++
    "\x7b\"status\":\"Failed\",\"statusCodeData\":\x7b\"reasonCode\":\"3.9\"\x7d\x7d\x7d," ++
    "\"matchingId\":\"A-1\"\x7d")

def refusedResponse : ConfirmOrderResponse where
  header := { executionStatus := { status := "Failed", statusCodeData := { reasonCode := "3.9" } } }
  matchingId := some "A-1"

theorem Client.confirmOrder_refused :
    (runOn (scarce.confirmOrder "1") (.start [.ok refusedReply])).1 =
      .error (.commandFailed .confirmOrder "Failed" { reasonCode := "3.9" }
        (Response.toJson refusedResponse)) := by
  have hread : decode Response.decoder refusedReply.body = .ok refusedResponse := by
    decide +kernel
  obtain ⟨x, t, hreq, hx, hrun⟩ := scarce.execute_requireSuccess_happens
    (α := ConfirmOrderResponse) (.confirmOrder "1") (.start [.ok refusedReply])
  have hreply : x.reply = .ok refusedReply := by
    rcases hx.replyTo with ⟨why, hdraw, -⟩ | ⟨callId, hdraw, hreply⟩
    · cases hdraw
    · rw [← hreply, hreq]
      rfl
  have hcall : runOn (scarce.confirmOrder "1") (.start [.ok refusedReply]) =
      ((settle .confirmOrder x.reply).bind (executed .confirmOrder), t) := hrun
  rw [hcall, hreply]
  dsimp only [settle]
  rw [hread]
  rfl

/-- The text of a profile in a state that has no meaning here. -/
def pausedText : List UInt8 := Utf8.encodeText "\x7b\"state\":\"PAUSED\",\"lockFlag\":true\x7d"

/-- A state that is not known and a refused confirmation are read again. -/
theorem Client.failures_reread_refused :
    (∃ paused : Part.profileStatus.Value, paused.state = .other "PAUSED" ∧
      decode Part.profileStatus.decoder pausedText = .ok paused ∧
      decode Part.profileStatus.decoder
        (Utf8.encodeText (Part.profileStatus.toJson paused).compact) = .ok paused) ∧
    (runOn (scarce.confirmOrder "1") (.start [.ok refusedReply])).1 =
      .error (.commandFailed .confirmOrder "Failed" { reasonCode := "3.9" }
        (Response.toJson refusedResponse)) ∧
    scarce.Refused ConfirmOrderResponse (.confirmOrder "1") (.start [.ok refusedReply])
      .confirmOrder "Failed" { reasonCode := "3.9" } (Response.toJson refusedResponse) := by
  obtain ⟨hparts, hfailures⟩ := scarce.failures_reread "1" (.start [.ok refusedReply])
  have hpaused : decode Part.profileStatus.decoder pausedText =
      .ok { state := .other "PAUSED", lockFlag := true } := by decide +kernel
  exact ⟨⟨_, rfl, hpaused, hparts .profileStatus _ _ hpaused⟩, confirmOrder_refused,
    (hfailures _ _ _ _).2 confirmOrder_refused⟩

/-! ## Over HTTPS -/

/-- Over HTTPS no failure is handed on, so that a refused function is one that the server did not
execute, as its reply says. -/
theorem Client.Refused.reports_of_https [Response α] {c : Client σ} {endpoint : Endpoint σ}
    {config : Config} (hhttps : c.transport = .https endpoint config) {request : Request}
    {s : Session σ} {command : Command} {status : String} {data : StatusCodeData} {document : Json}
    (h : c.Refused α request s command status data document) :
    command = request.command ∧ ∃ callId reply, c.callIds s.draws = .ok callId ∧
      c.replyTo request callId s = .ok reply ∧ Reports α reply status data document := by
  obtain ⟨callId, hdraw, hhanded | ⟨reply, hreply, hcommand, hreports⟩⟩ := h
  · obtain ⟨r, es, hpost, -, hway⟩ :=
      Transport.https_post endpoint config request.command (c.bodyOf request callId) s.remote
    unfold replyTo at hhanded
    rw [hhttps, hpost] at hhanded
    obtain ⟨why, hwhy⟩ := hway _ hhanded
    cases hwhy
  · exact ⟨hcommand, callId, reply, hdraw, hreply, hreports⟩

end Provisioning.Es2
