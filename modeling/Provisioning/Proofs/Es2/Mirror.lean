import Mathlib.Data.List.Forall2
import Provisioning.Proofs.Es2.Related
import Provisioning.Proofs.Es2.Warning
/-!
# What a run does not depend on

The status of a reply, the protocol that it announces and the client's log have no part in what is
posted or in what a call returns. Of the three, only the status shows, in the failure to read a
reply.

* `SameBody`, `Transport.Mirrors` : replies with the same body, and transports that give such
  replies to the same posts;
* `Transport.replay_mirrors` : replies from lists with the same bodies;
* `SameFailure` : failures that differ in the status of a reply at most;
* `Client.Mirrors` : clients that post alike over such transports;
* `Client.Mirrors.perform` : their calls are related;
* `Client.performAll_mirrors` : so are runs of calls, and each warns as it should.
-/

namespace Provisioning.Es2

variable {σ τ α : Type}

/-! ## Transports -/

/-- Replies with the same body, or the same failure. -/
inductive SameBody : Except Error Reply → Except Error Reply → Prop
  | reply (status status' : Nat) (protocol protocol' : Option String) (body : List UInt8) :
    SameBody (.ok ⟨status, protocol, body⟩) (.ok ⟨status', protocol', body⟩)
  | failure (e : Error) : SameBody (.error e) (.error e)

/-- To the same post, servers in states related by `R` reply with the same body, and go to states
related by `R`. -/
structure Transport.Mirrors (R : σ → τ → Prop) (t : Transport σ) (t' : Transport τ) : Prop where
  reply : ∀ ⦃s s'⦄, R s s' → ∀ command body,
    SameBody (t.post command body s).1.1 (t'.post command body s').1.1
  next : ∀ ⦃s s'⦄, R s s' → ∀ command body,
    R (t.post command body s).2 (t'.post command body s').2

theorem Transport.replay_mirrors (exhausted : Error) :
    Mirrors (List.Forall₂ SameBody) (.replay exhausted) (.replay exhausted) := by
  constructor
  · intro rs rs' h command body
    cases h with
    | nil => exact .failure exhausted
    | cons h _ => exact h
  · intro rs rs' h command body
    cases h with
    | nil => exact .nil
    | cons _ h => exact h

/-! ## Failures -/

/-- The same failure, but for the status of a reply that cannot be read. -/
inductive SameFailure : Error → Error → Prop
  | same (e : Error) : SameFailure e e
  | decode (command : Command) (status status' : Nat) (fault : Json.Fault) :
    SameFailure (.decode command status fault) (.decode command status' fault)

theorem settle_same [Response α] (command : Command) {r r' : Except Error Reply}
    (h : SameBody r r') :
    SameOutcome SameFailure Eq (settle command r : Except Error α) (settle command r') := by
  cases h with
  | failure e => exact .error (.same e)
  | reply status status' protocol protocol' body =>
    dsimp only [settle]
    cases Json.decode (Response.decoder : Json.Decoder α) body with
    | error fault => exact .error (.decode command status status' fault)
    | ok a => exact .ok rfl

/-! ## Calls -/

/-- Sessions that have posted the same, with servers in states related by `R`. -/
structure Session.Mirrors (R : σ → τ → Prop) (s : Session σ) (t : Session τ) : Prop where
  remote : R s.remote t.remote
  draws : s.draws = t.draws
  posted : s.posted = t.posted

/-- Clients with the same identifiers and the same requester, over transports whose replies have the
same bodies. What they log is their own. -/
structure Client.Mirrors (R : σ → τ → Prop) (c : Client σ) (c' : Client τ) : Prop where
  callIds : c.callIds = c'.callIds
  requesterId : c.requesterId = c'.requesterId
  transport : c.transport.Mirrors R c'.transport

section Mirrors

variable {R : σ → τ → Prop}

theorem Related.emit_mirrors (e : Event) :
    Related (Session.Mirrors R) SameFailure (fun _ _ => True) (emit e) (emit e) :=
  fun _ _ h => ⟨.ok trivial, h.remote, h.draws, h.posted⟩

namespace Client

variable {c : Client σ} {c' : Client τ}

namespace Mirrors

theorem bodyOf (h : Mirrors R c c') (request : Request) (callId : String) :
    c.bodyOf request callId = c'.bodyOf request callId := by
  unfold Client.bodyOf
  rw [h.requesterId]

theorem execute [Response α] (h : Mirrors R c c') (request : Request) :
    Related (Session.Mirrors R) SameFailure Eq (c.execute request : Call σ α)
      (c'.execute request) := by
  intro s t hs
  cases hdraw : c.callIds s.draws with
  | error why =>
    have hdraw' : c'.callIds t.draws = .error why := by rw [← h.callIds, ← hs.draws, hdraw]
    rw [runOn_execute_of_error hdraw, runOn_execute_of_error hdraw']
    exact ⟨.error (.same _), hs.remote, congrArg (· + 1) hs.draws, hs.posted⟩
  | ok callId =>
    have hdraw' : c'.callIds t.draws = .ok callId := by rw [← h.callIds, ← hs.draws, hdraw]
    have hreply : SameBody (c.replyTo request callId s) (c'.replyTo request callId t) := by
      unfold replyTo
      rw [← h.bodyOf]
      exact h.transport.reply hs.remote _ _
    rw [runOn_execute hdraw, runOn_execute hdraw']
    refine ⟨settle_same request.command hreply, ?_, congrArg (· + 1) hs.draws, ?_⟩
    · show R (c.transport.post _ (c.bodyOf request callId) s.remote).2
        (c'.transport.post _ (c'.bodyOf request callId) t.remote).2
      rw [← h.bodyOf]
      exact h.transport.next hs.remote _ _
    · show s.posted ++ [(request.command, c.bodyOf request callId)] =
        t.posted ++ [(request.command, c'.bodyOf request callId)]
      rw [hs.posted, h.bodyOf]

theorem execute_requireSuccess [Response α] (h : Mirrors R c c') (request : Request) :
    Related (Session.Mirrors R) SameFailure Eq
      (c.execute request >>= requireSuccess request.command : Call σ α)
      (c'.execute request >>= requireSuccess request.command) := by
  refine (h.execute request).bind fun a b hab => ?_
  rw [← hab]
  exact Related.requireSuccess Related.emit_mirrors request.command rfl rfl fun _ _ => .same _

theorem getStatus (h : Mirrors R c c') (iccid : String) :
    Related (Session.Mirrors R) SameFailure Eq (c.getStatus iccid) (c'.getStatus iccid) := by
  refine (h.execute _).bind fun a b hab => ?_
  rw [← hab]
  split
  · exact .pure rfl
  · exact .pure rfl
  · exact .throw (.same _)

theorem activate (h : Mirrors R c c') (iccid : String) :
    Related (Session.Mirrors R) SameFailure Eq (c.activate iccid) (c'.activate iccid) := by
  refine Related.activate (h.getStatus iccid) ?_ ?_ Related.emit_mirrors ?_ ?_
  · exact (h.execute_requireSuccess (.downloadOrder iccid)).mono fun _ _ _ => trivial
  · exact (h.execute_requireSuccess (.confirmOrder iccid)).mono fun _ _ _ => trivial
  · exact fun _ _ => congrArg _
  · exact fun _ _ => congrArg _

theorem perform (h : Mirrors R c c') (op : Operation) :
    Related (Session.Mirrors R) SameFailure Eq (c.perform op) (c'.perform op) := by
  cases op with
  | getStatus iccid => exact h.getStatus iccid
  | recoverProfile iccid target => exact h.execute _
  | cancelOrder iccid target => exact h.execute _
  | downloadOrder iccid => exact h.execute_requireSuccess (.downloadOrder iccid)
  | confirmOrder iccid => exact h.execute_requireSuccess (.confirmOrder iccid)
  | activate iccid => exact h.activate iccid

end Mirrors

end Client

end Mirrors

/-! ## Runs of calls -/

/-- A call behind others from the start: its result, and the session that it leaves. -/
def Client.performAfter (c : Client σ) (remote : σ) (front : List Operation) (op : Operation) :
    Except Error op.Result × Session σ :=
  runOn (c.perform op) (c.performAll front (.start remote))

/-- What a run of calls leaves in the log, and what its calls can fail with. -/
structure Client.Accounts (c : Client σ) (remote : σ) (ops : List Operation) : Prop where
  /-- There is a warning for each reply that announces no or another protocol, and what the
  transport itself warns of. -/
  warnings : (c.performAll ops (.start remote)).warnings =
    due (c.transport.answers (c.performAll ops (.start remote)).posted remote)
  quiet : c.transport.Quiet → (c.performAll ops (.start remote)).warnings =
    (c.transport.answers (c.performAll ops (.start remote)).posted remote).countP
      fun a => misannounces a.1
  status : ∀ front op back, ops = front ++ op :: back →
    Blames (c.transport.answers (c.performAfter remote front op).2.posted remote)
      (c.performAfter remote front op).1

theorem Client.accounts (c : Client σ) (remote : σ) (ops : List Operation) :
    c.Accounts remote ops := by
  obtain ⟨ps, htally⟩ := c.performAll_tallies ops (.start remote)
  have hposted : (c.performAll ops (.start remote)).posted = ps := htally.posted
  have hdue : (c.performAll ops (.start remote)).warnings =
      due (c.transport.answers ps remote) := by
    rw [htally.warnings]
    exact Nat.zero_add _
  constructor
  · rw [hposted, hdue]
  · intro hquiet
    rw [hposted, hdue, hquiet.due_answers]
  · intro front op back _
    obtain ⟨qs, hfront⟩ := c.performAll_tallies front (.start remote)
    obtain ⟨rs, hop, hblames⟩ := c.perform_tallied op (c.performAll front (.start remote))
    have hall : (c.performAfter remote front op).2.posted = qs ++ rs := (hfront.trans hop).posted
    rw [hfront.remote] at hblames
    rw [hall, c.transport.answers_append]
    exact hblames.append _

/-- Two runs of calls with the same identifiers, whose replies have the same bodies, post the same
and return the same, whatever the statuses of the replies, the protocols that they announce and what
is logged. Only the failure to read a reply has the status of that reply. Each run warns once for
each reply that announces no or another protocol, and of nothing else that the client sees. -/
theorem Client.performAll_mirrors {R : σ → τ → Prop} {c : Client σ} {c' : Client τ}
    (h : c.Mirrors R c') {remote : σ} {remote' : τ} (hremote : R remote remote')
    (ops : List Operation) :
    (c.performAll ops (.start remote)).posted = (c'.performAll ops (.start remote')).posted ∧
      (∀ front op back, ops = front ++ op :: back → SameOutcome SameFailure Eq
        (c.performAfter remote front op).1 (c'.performAfter remote' front op).1) ∧
      c.Accounts remote ops ∧ c'.Accounts remote' ops := by
  have hsessions : ∀ front, Session.Mirrors R (c.performAll front (.start remote))
      (c'.performAll front (.start remote')) :=
    fun front => Related.performAll h.perform front ⟨hremote, rfl, rfl⟩
  refine ⟨(hsessions ops).posted, ?_, c.accounts remote ops, c'.accounts remote' ops⟩
  intro front op back _
  exact (h.perform op (hsessions front)).1

def Client.ample (logPayloads : Bool) : Client (List (Except Error Reply)) where
  transport := .replay (.credentials "no reply left")
  callIds n := .ok n.repr
  requesterId := "requester"
  logPayloads

/-- Replies with a status and a protocol to a poll and to an order, and an end in the midst of a
reply. -/
def cutReplies (status : Nat) (protocol : Option String) : List (Except Error Reply) :=
  [.ok ⟨status, protocol, availableReply.body⟩, .ok ⟨status, protocol, Utf8.encodeText "\x7b\x7d"⟩,
    .ok ⟨status, protocol, Utf8.encodeText "\x7b"⟩]

/-- Replies without a protocol do not change what is posted, but there is a warning for each. -/
theorem Client.ample_mirrors :
    ((ample false).performAll [.activate "1", .downloadOrder "1"]
        (.start (cutReplies 200 (some adminProtocol)))).posted =
      ((ample true).performAll [.activate "1", .downloadOrder "1"]
        (.start (cutReplies 500 none))).posted ∧
    ((ample false).performAll [.activate "1", .downloadOrder "1"]
      (.start (cutReplies 200 (some adminProtocol)))).warnings = 0 ∧
    ((ample true).performAll [.activate "1", .downloadOrder "1"]
      (.start (cutReplies 500 none))).warnings = 3 := by
  have hclients : (ample false).Mirrors (List.Forall₂ SameBody) (ample true) :=
    ⟨rfl, rfl, Transport.replay_mirrors _⟩
  have hreplies : List.Forall₂ SameBody (cutReplies 200 (some adminProtocol))
      (cutReplies 500 none) :=
    .cons (.reply _ _ _ _ _) (.cons (.reply _ _ _ _ _) (.cons (.reply _ _ _ _ _) .nil))
  obtain ⟨hposted, -, hfirst, hsecond⟩ :=
    performAll_mirrors hclients hreplies [.activate "1", .downloadOrder "1"]
  refine ⟨hposted, ?_, ?_⟩
  · rw [hfirst.quiet (Transport.replay_quiet _)]
    decide +kernel
  · rw [hsecond.quiet (Transport.replay_quiet _)]
    decide +kernel

end Provisioning.Es2
