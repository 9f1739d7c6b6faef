import Provisioning.Proofs.Es2.Operation
import Provisioning.Proofs.Es2.Request
import Provisioning.Proofs.Json.Value
/-!
# The body of a call

A call of one function posts one body. It is read as the document that the call asks with, and no
argument of a call can change what else the document says.

* `Operation.IsSingle` : a call of one function; `Client.perform_posted` is what it posts;
* `Client.bodies` : the bodies of a call;
* `Posts` : a call that posts one body, which is read as a value;
* `Request.body_inj` : a document has one header and one request;
* `Client.posts_intended` : the documents of the functions, and that calls which differ have
  different bodies.
-/

namespace Provisioning.Es2
open Json (Decoder)

variable {σ α : Type}

/-! ## What is posted -/

/-- A call of one function. -/
def Operation.IsSingle : Operation → Prop
  | activate _ => False
  | _ => True

theorem Operation.request_inj {op op' : Operation} (hop : op.IsSingle) (hop' : op'.IsSingle)
    (h : op.request = op'.request) : op = op' := by
  cases op <;> cases op' <;> simp_all [Operation.request, Operation.IsSingle]

theorem Exchange.Happens.posted_of_ok {c : Client σ} {x : Exchange} {s t : Session σ}
    {callId : String} (h : x.Happens c s t) (hdraw : c.callIds s.draws = .ok callId) :
    t.posted = s.posted ++ [(x.request.command, c.bodyOf x.request callId)] := by
  cases h with
  | undrawn hcall hdraws hposted hremote => cases hcall.symm.trans hdraw
  | posted hcall hdraws hposted hpost =>
    cases hcall.symm.trans hdraw
    exact hposted

namespace Client

theorem perform_happens (c : Client σ) {op : Operation} (hop : op.IsSingle) (s : Session σ) :
    ∃ x : Exchange, x.request = op.request ∧ x.Happens c s (runOn (c.perform op) s).2 := by
  cases op with
  | getStatus iccid =>
    obtain ⟨x, t, hreq, hx, hrun⟩ := c.getStatus_happens iccid s
    exact ⟨x, hreq, by unfold perform; rw [hrun]; exact hx⟩
  | recoverProfile iccid target =>
    obtain ⟨x, t, hreq, hx, hrun⟩ :=
      c.execute_happens (α := RecoverProfileResponse) (.recoverProfile iccid target) s
    exact ⟨x, hreq, by unfold perform recoverProfile; rw [hrun]; exact hx⟩
  | cancelOrder iccid target =>
    obtain ⟨x, t, hreq, hx, hrun⟩ :=
      c.execute_happens (α := CancelOrderResponse) (.cancelOrder iccid target) s
    exact ⟨x, hreq, by unfold perform cancelOrder; rw [hrun]; exact hx⟩
  | downloadOrder iccid =>
    obtain ⟨x, t, r, hreq, hx, -, hrun⟩ := c.downloadOrder_happens iccid s
    exact ⟨x, hreq, by unfold perform; rw [hrun]; exact hx⟩
  | confirmOrder iccid =>
    obtain ⟨x, t, r, hreq, hx, -, hrun⟩ := c.confirmOrder_happens iccid s
    exact ⟨x, hreq, by unfold perform; rw [hrun]; exact hx⟩
  | activate iccid => exact hop.elim

theorem perform_posted {c : Client σ} {op : Operation} (hop : op.IsSingle) {s : Session σ}
    {callId : String} (hdraw : c.callIds s.draws = .ok callId) :
    (runOn (c.perform op) s).2.posted =
      s.posted ++ [(op.request.command, c.bodyOf op.request callId)] := by
  obtain ⟨x, hreq, hx⟩ := c.perform_happens hop s
  rw [hx.posted_of_ok hdraw, hreq]

/-- The bodies that a call posts in a session. -/
def bodies (c : Client σ) (op : Operation) (s : Session σ) : List String :=
  ((runOn (c.perform op) s).2.posted.drop s.posted.length).map (·.2)

theorem bodies_eq {c : Client σ} {op : Operation} (hop : op.IsSingle) {s : Session σ}
    {callId : String} (hdraw : c.callIds s.draws = .ok callId) :
    c.bodies op s = [c.bodyOf op.request callId] := by
  unfold bodies
  rw [perform_posted hop hdraw, List.drop_left]
  rfl

end Client

/-! ## What is read -/

/-- A call posts one body, for a command, which is read as a value. -/
def Posts (call : Call σ α) (s : Session σ) (command : Command) (v : Json) : Prop :=
  ∃ body, (runOn call s).2.posted = s.posted ++ [(command, body)] ∧
    Json.decode Decoder.value (Utf8.encodeText body) = .ok v

/-- A document with a header and what else it holds. -/
def headed (requesterId callId : String) (members : List (String × Json)) : Json :=
  .object (("header", .object [("functionRequesterIdentifier", .string requesterId),
    ("functionCallIdentifier", .string callId)]) :: members)

theorem Client.perform_posts {c : Client σ} (op : Operation) (hop : op.IsSingle) {s : Session σ}
    {callId : String} (hdraw : c.callIds s.draws = .ok callId) :
    Posts (c.perform op) s op.request.command
      (headed c.requesterId callId op.request.members) :=
  ⟨_, perform_posted hop hdraw, Json.decode_value_compact (op.request.isNumberless_body _)⟩

namespace Request

theorem members_inj {r r' : Request} (h : r.members = r'.members) : r = r' := by
  cases r <;> cases r' <;> simp_all [members]

theorem body_inj {r r' : Request} {h h' : RequestHeader} (heq : r.body h = r'.body h') :
    h = h' ∧ r = r' := by
  unfold body at heq
  simp only [Json.object.injEq, List.cons.injEq, Prod.mk.injEq, true_and] at heq
  obtain ⟨hheader, hmembers⟩ := heq
  obtain ⟨requesterId, callId⟩ := h
  obtain ⟨requesterId', callId'⟩ := h'
  simp only [header, Json.object.injEq, List.cons.injEq, Prod.mk.injEq, true_and, and_true,
    Json.string.injEq] at hheader
  obtain ⟨rfl, rfl⟩ := hheader
  exact ⟨rfl, members_inj hmembers⟩

end Request

/-- Each function posts one body, which is read as the document that it asks with, the strings as
they are given and no other member. Calls that post the same body agree in the requester, the
identifier, the function and all its arguments. -/
theorem Client.posts_intended (c : Client σ) {s : Session σ} {callId : String}
    (hdraw : c.callIds s.draws = .ok callId) (iccid target : String) :
    Posts (c.getStatus iccid) s .getProfileStatus (headed c.requesterId callId
      [("iccidList", .array [.object [("iccid", .string iccid)]])]) ∧
    Posts (c.recoverProfile iccid target) s .recoverProfile (headed c.requesterId callId
      [("iccid", .string iccid), ("profileStatus", .string target)]) ∧
    Posts (c.cancelOrder iccid target) s .cancelOrder (headed c.requesterId callId
      [("iccid", .string iccid), ("finalProfileStatusIndicator", .string target)]) ∧
    Posts (c.downloadOrder iccid) s .downloadOrder (headed c.requesterId callId
      [("iccid", .string iccid)]) ∧
    Posts (c.confirmOrder iccid) s .confirmOrder (headed c.requesterId callId
      [("iccid", .string iccid), ("releaseFlag", .bool true)]) ∧
    ∀ (τ : Type) (c' : Client τ) (s' : Session τ) (callId' : String) (op op' : Operation),
      c'.callIds s'.draws = .ok callId' → op.IsSingle → op'.IsSingle →
      c.bodies op s = c'.bodies op' s' →
      c.requesterId = c'.requesterId ∧ callId = callId' ∧ op = op' := by
  refine ⟨perform_posts (.getStatus iccid) trivial hdraw,
    perform_posts (.recoverProfile iccid target) trivial hdraw,
    perform_posts (.cancelOrder iccid target) trivial hdraw,
    perform_posts (.downloadOrder iccid) trivial hdraw,
    perform_posts (.confirmOrder iccid) trivial hdraw, ?_⟩
  intro τ c' s' callId' op op' hdraw' hop hop' hbodies
  rw [bodies_eq hop hdraw, bodies_eq hop' hdraw', List.cons.injEq] at hbodies
  have hdocument : op.request.body ⟨c.requesterId, callId⟩ =
      op'.request.body ⟨c'.requesterId, callId'⟩ :=
    Json.compact_inj (op.request.isNumberless_body _) (op'.request.isNumberless_body _) hbodies.1
  obtain ⟨hheader, hrequest⟩ := Request.body_inj hdocument
  obtain ⟨hrequester, hcallId⟩ := RequestHeader.mk.inj hheader
  exact ⟨hrequester, hcallId, Operation.request_inj hop hop' hrequest⟩

/-- A client whose requester is written as if it were two members. -/
def Client.quoting : Client (List (Except Error Reply)) :=
  { scarce with requesterId := "a\",\"functionCallIdentifier\":\"1" }

/-- Quotes, backslashes and controls in an argument stay in that argument. -/
theorem Client.quoting_posts :
    Posts (quoting.cancelOrder "1\",\"eid\":\"2" "\\\n\x01é") (.start []) .cancelOrder
      (headed "a\",\"functionCallIdentifier\":\"1" "1" [("iccid", .string "1\",\"eid\":\"2"),
        ("finalProfileStatusIndicator", .string "\\\n\x01é")]) ∧
    quoting.bodies (.downloadOrder "1") (.start []) ≠
      scarce.bodies (.downloadOrder "1") (.start []) := by
  have hdraw : quoting.callIds (Session.start ([] : List (Except Error Reply))).draws = .ok "1" :=
    rfl
  obtain ⟨-, -, hcancel, -, -, hinj⟩ :=
    quoting.posts_intended hdraw "1\",\"eid\":\"2" "\\\n\x01é"
  refine ⟨hcancel, fun hbodies => ?_⟩
  have hsame := hinj _ scarce (.start []) "1" (.downloadOrder "1") (.downloadOrder "1") rfl trivial
    trivial hbodies
  exact absurd hsame.1 (by decide)

end Provisioning.Es2
