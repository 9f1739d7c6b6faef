import Provisioning.Es2.Https
/-!
# One exchange with a server

* `runOn` : a call in a session, its result and the session that it leaves;
* `runOn_bind`, `runOn_emit`, `runOn_draw`, `runOn_post` : the steps that calls are made of;
* `settle`, `settleEvents` : what a reply, or the failure to get one, comes to, and what is logged;
* `runOn_execute` : an exchange draws an identifier, posts one request and settles the reply;
  without an identifier it posts nothing (`runOn_execute_of_error`);
* `Exchange`, `Exchange.Happens` : an exchange, and how it takes a session to another;
* `Exchange.result` : the snapshot that an exchange brings, or why it fails;
* `Transport.https_post` : what a post over HTTPS brings, and what it reports.
-/

namespace Provisioning.Es2

variable {σ α β : Type}

/-! ## Steps of a call -/

/-- The result of a call and the session behind it. -/
def runOn (x : Call σ α) (s : Session σ) : Except Error α × Session σ := (ExceptT.run x).run s

theorem runOn_bind (x : Call σ α) (f : α → Call σ β) (s : Session σ) :
    runOn (x >>= f) s =
      match runOn x s with
      | (.ok a, t) => runOn (f a) t
      | (.error e, t) => (.error e, t) := by
  have h : runOn (x >>= f) s = ExceptT.bindCont f (runOn x s).1 (runOn x s).2 := rfl
  rw [h]
  obtain ⟨r, t⟩ := runOn x s
  cases r <;> rfl

theorem runOn_bind_of_ok {x : Call σ α} {f : α → Call σ β} {s t : Session σ} {a : α}
    (h : runOn x s = (.ok a, t)) : runOn (x >>= f) s = runOn (f a) t := by
  rw [runOn_bind, h]

theorem runOn_bind_of_error {x : Call σ α} {f : α → Call σ β} {s t : Session σ} {e : Error}
    (h : runOn x s = (.error e, t)) : runOn (x >>= f) s = (.error e, t) := by
  rw [runOn_bind, h]

theorem runOn_get (s : Session σ) : runOn (get : Call σ (Session σ)) s = (.ok s, s) := rfl

theorem runOn_set (t s : Session σ) : runOn (set t : Call σ Unit) s = (.ok (), t) := rfl

theorem runOn_pure (a : α) (s : Session σ) : runOn (pure a) s = (.ok a, s) := rfl

theorem runOn_throw (e : Error) (s : Session σ) :
    runOn (throw e : Call σ α) s = (.error e, s) := rfl

def Session.noting (s : Session σ) (es : List Event) : Session σ :=
  { s with events := s.events ++ es }

theorem Session.noting_nil (s : Session σ) : s.noting [] = s := by
  rw [noting, List.append_nil]

theorem Session.noting_noting (s : Session σ) (es es' : List Event) :
    (s.noting es).noting es' = s.noting (es ++ es') := by
  rw [noting, noting, noting, List.append_assoc]

theorem runOn_emit (e : Event) (s : Session σ) : runOn (emit e) s = (.ok (), s.noting [e]) := rfl

/-- An event that is only emitted in some cases, before the call goes on. -/
theorem runOn_emit_if (p : Bool) (e : Event) (f : Unit → Call σ α) (s : Session σ) :
    runOn (if p = true then emit e >>= f else f ()) s =
      runOn (f ()) (s.noting (if p = true then [e] else [])) := by
  cases p with
  | false => rw [if_neg Bool.false_ne_true, if_neg Bool.false_ne_true, Session.noting_nil]
  | true => rw [if_pos rfl, if_pos rfl, runOn_bind_of_ok (runOn_emit e s)]

theorem runOn_draw (ids : CallIds) (s : Session σ) :
    runOn (draw ids) s =
      ((ids s.draws).mapError Error.callId, { s with draws := s.draws + 1 }) := by
  rw [draw, runOn_bind_of_ok (runOn_get s), runOn_bind_of_ok (runOn_set _ s)]
  cases ids s.draws <;> rfl

def Session.posting (s : Session σ) (t : Transport σ) (command : Command) (body : String) :
    Session σ :=
  { s with
    remote := (t.post command body s.remote).2
    posted := s.posted ++ [(command, body)]
    events := s.events ++ (t.post command body s.remote).1.2 }

theorem runOn_post (t : Transport σ) (command : Command) (body : String) (s : Session σ) :
    runOn (post t command body) s =
      ((t.post command body s.remote).1.1, s.posting t command body) := by
  rw [post, runOn_bind_of_ok (runOn_get s)]
  unfold Session.posting StateT.run
  obtain ⟨⟨result, events⟩, remote⟩ := t.post command body s.remote
  rw [runOn_bind_of_ok (runOn_set _ s)]
  cases result <;> rfl

/-! ## Exchanges -/

/-- What a reply, or the failure to get one, comes to. -/
def settle [Response α] (command : Command) : Except Error Reply → Except Error α
  | .error e => .error e
  | .ok reply =>
    (Json.decode Response.decoder reply.body).mapError (Error.decode command reply.status)

/-- A reply is read, or the failure has its status. -/
theorem settle_ok_cases (α : Type) [Response α] (command : Command) (reply : Reply) :
    (∃ a : α, Json.decode Response.decoder reply.body = .ok a ∧
      settle command (.ok reply) = .ok a) ∨
    ∃ fault, (settle command (.ok reply) : Except Error α) =
      .error (.decode command reply.status fault) := by
  unfold settle
  dsimp only
  cases Json.decode (Response.decoder : Json.Decoder α) reply.body with
  | error fault => exact .inr ⟨fault, rfl⟩
  | ok a => exact .inl ⟨a, rfl, rfl⟩

namespace Client

def requestEvents (c : Client σ) (command : Command) (body : String) : List Event :=
  if c.logPayloads then [requestEvent command body] else []

def completedEvents (command : Command) (callId : String) : Except Error α → List Event
  | .error _ => []
  | .ok _ => [completedEvent command callId]

/-- What is logged of a reply; the completion only if the reply is read as a value in `α`. -/
def settleEvents (α : Type) [Response α] (c : Client σ) (command : Command) (callId : String) :
    Except Error Reply → List Event
  | .error _ => []
  | .ok reply =>
    (if c.logPayloads then [replyEvent command reply] else []) ++
      (if reply.adminProtocol != some adminProtocol then [protocolEvent command reply] else []) ++
      completedEvents command callId (settle command (.ok reply) : Except Error α)

/-- The text that is posted for a request. -/
def bodyOf (c : Client σ) (request : Request) (callId : String) : String :=
  (request.body ⟨c.requesterId, callId⟩).compact

/-- The reply to a request in a session, or the failure to get one. -/
def replyTo (c : Client σ) (request : Request) (callId : String) (s : Session σ) :
    Except Error Reply :=
  (c.transport.post request.command (c.bodyOf request callId) s.remote).1.1

/-- The session behind an exchange for which the identifier `callId` was drawn. -/
def exchanged (α : Type) [Response α] (c : Client σ) (request : Request) (callId : String)
    (s : Session σ) : Session σ :=
  ((({ s with draws := s.draws + 1 }.noting
    (c.requestEvents request.command (c.bodyOf request callId))).posting c.transport request.command
      (c.bodyOf request callId)).noting
    (c.settleEvents α request.command callId (c.replyTo request callId s)))

theorem runOn_execute [Response α] {c : Client σ} {request : Request} {s : Session σ}
    {callId : String} (h : c.callIds s.draws = .ok callId) :
    runOn (c.execute request : Call σ α) s =
      (settle request.command (c.replyTo request callId s), c.exchanged α request callId s) := by
  have hdraw := runOn_draw c.callIds s
  rw [h] at hdraw
  unfold execute
  rw [runOn_bind_of_ok hdraw]
  dsimp only
  rw [runOn_emit_if, runOn_bind, runOn_post]
  have hreply : ∀ es : List Event,
      (c.transport.post request.command ((request.body ⟨c.requesterId, callId⟩).compact)
        ({ s with draws := s.draws + 1 }.noting es).remote).1.1 = c.replyTo request callId s :=
    fun _ => rfl
  rw [hreply]
  unfold exchanged
  cases hr : c.replyTo request callId s with
  | error e =>
    rw [settleEvents, Session.noting_nil]
    rfl
  | ok reply =>
    dsimp only
    rw [runOn_emit_if, runOn_emit_if, Session.noting_noting, settleEvents, settle]
    cases Json.decode (Response.decoder : Json.Decoder α) reply.body with
    | error fault =>
      dsimp only [Except.mapError, completedEvents]
      rw [runOn_throw, List.append_nil]
      rfl
    | ok response =>
      dsimp only
      rw [runOn_bind_of_ok (runOn_emit _ _), runOn_pure, Session.noting_noting]
      rfl

theorem runOn_execute_of_error [Response α] {c : Client σ} {request : Request} {s : Session σ}
    {why : String} (h : c.callIds s.draws = .error why) :
    runOn (c.execute request : Call σ α) s =
      (.error (.callId why), { s with draws := s.draws + 1 }) := by
  have hdraw := runOn_draw c.callIds s
  rw [h] at hdraw
  unfold execute
  rw [runOn_bind_of_error hdraw]

end Client

/-! ## Functions of the client -/

/-- An exchange: what is asked, what is posted for it, and the reply or why there is none. -/
structure Exchange where
  request : Request
  posts : List (Command × String)
  reply : Except Error Reply

/-- An exchange takes an identifier, and posts nothing if there is none. -/
inductive Exchange.Happens (c : Client σ) : Exchange → Session σ → Session σ → Prop
  | undrawn {request : Request} {s t : Session σ} {why : String}
      (hdraw : c.callIds s.draws = .error why) (hdraws : t.draws = s.draws + 1)
      (hposted : t.posted = s.posted) (hremote : t.remote = s.remote) :
      Happens c ⟨request, [], .error (.callId why)⟩ s t
  | posted {request : Request} {s t : Session σ} {callId : String} {reply : Except Error Reply}
      {es : List Event} (hdraw : c.callIds s.draws = .ok callId) (hdraws : t.draws = s.draws + 1)
      (hposted : t.posted = s.posted ++ [(request.command, c.bodyOf request callId)])
      (hpost : c.transport.post request.command (c.bodyOf request callId) s.remote =
        ((reply, es), t.remote)) :
      Happens c ⟨request, [(request.command, c.bodyOf request callId)], reply⟩ s t

theorem Exchange.Happens.noting {c : Client σ} {x : Exchange} {s t : Session σ}
    (h : x.Happens c s t) (es : List Event) : x.Happens c s (t.noting es) := by
  cases h with
  | undrawn hdraw hdraws hposted hremote => exact undrawn hdraw hdraws hposted hremote
  | posted hdraw hdraws hposted hpost => exact posted hdraw hdraws hposted hpost

theorem Client.execute_happens [Response α] (c : Client σ) (request : Request) (s : Session σ) :
    ∃ (x : Exchange) (t : Session σ), x.request = request ∧ x.Happens c s t ∧
      runOn (c.execute request : Call σ α) s = (settle request.command x.reply, t) := by
  cases h : c.callIds s.draws with
  | error why =>
    exact ⟨_, { s with draws := s.draws + 1 }, rfl, .undrawn h rfl rfl rfl,
      runOn_execute_of_error h⟩
  | ok callId => exact ⟨_, _, rfl, .posted h rfl rfl rfl, runOn_execute h⟩

/-- What a list of the profiles with one ICCID comes to. -/
def snapshot (iccid : String) : List ProfileStatus → Except Error (Option ProfileStatus)
  | [] => .ok none
  | [p] => .ok (some p)
  | ps => .error (.multipleProfiles iccid ps.length)

/-- A response, unless the server says in it that it did not execute the function. -/
def executed [Response α] (command : Command) (response : α) : Except Error α :=
  if isSuccess response then .ok response
  else
    let e := (Response.header response).executionStatus
    .error (.commandFailed command e.status e.statusCodeData (Response.toJson response))

/-- The snapshot that an exchange brings, if any, or why it fails. Only a poll brings one. -/
def Exchange.result (x : Exchange) : Except Error (Option ProfileStatus) :=
  match x.request with
  | .getProfileStatus iccid =>
    (settle .getProfileStatus x.reply : Except Error ProfileStatusResponse).bind fun response =>
      snapshot iccid response.profiles
  | .recoverProfile _ _ =>
    (settle .recoverProfile x.reply : Except Error RecoverProfileResponse).map fun _ => none
  | .cancelOrder _ _ =>
    (settle .cancelOrder x.reply : Except Error CancelOrderResponse).map fun _ => none
  | .downloadOrder _ =>
    ((settle .downloadOrder x.reply : Except Error DownloadOrderResponse).bind
      (executed .downloadOrder)).map fun _ => none
  | .confirmOrder _ =>
    ((settle .confirmOrder x.reply : Except Error ConfirmOrderResponse).bind
      (executed .confirmOrder)).map fun _ => none

theorem Exchange.result_of_error {x : Exchange} {e : Error} (h : x.reply = .error e) :
    x.result = .error e := by
  unfold result
  rw [h]
  cases x.request <;> rfl

theorem runOn_requireSuccess [Response α] (command : Command) (response : α) (s : Session σ) :
    ∃ es, runOn (Client.requireSuccess command response) s =
      (executed command response, s.noting es) := by
  unfold Client.requireSuccess executed isSuccess
  dsimp only
  split
  · exact ⟨_, runOn_bind_of_ok (runOn_emit _ s)⟩
  · exact ⟨_, runOn_bind_of_ok (runOn_emit _ s)⟩

namespace Client

theorem getStatus_happens (c : Client σ) (iccid : String) (s : Session σ) :
    ∃ (x : Exchange) (t : Session σ), x.request = .getProfileStatus iccid ∧ x.Happens c s t ∧
      runOn (c.getStatus iccid) s = (x.result, t) := by
  obtain ⟨x, t, hx, hs, hrun⟩ :=
    c.execute_happens (α := ProfileStatusResponse) (.getProfileStatus iccid) s
  refine ⟨x, t, hx, hs, ?_⟩
  unfold getStatus Exchange.result
  rw [runOn_bind, hrun, hx]
  dsimp only [Request.command]
  cases (settle .getProfileStatus x.reply : Except Error ProfileStatusResponse) with
  | error e => rfl
  | ok response =>
    dsimp only [Except.bind]
    rcases response.profiles with - | ⟨p, - | ⟨q, ps⟩⟩ <;> rfl

/-- A function that is only done if the server says so. -/
theorem execute_requireSuccess_happens [Response α] (c : Client σ) (request : Request)
    (s : Session σ) :
    ∃ (x : Exchange) (t : Session σ), x.request = request ∧ x.Happens c s t ∧
      runOn (c.execute request >>= requireSuccess request.command : Call σ α) s =
        ((settle request.command x.reply).bind (executed request.command), t) := by
  obtain ⟨x, t, hx, hs, hrun⟩ := c.execute_happens (α := α) request s
  cases h : (settle request.command x.reply : Except Error α) with
  | error e =>
    rw [h] at hrun
    exact ⟨x, t, hx, hs, by rw [runOn_bind_of_error hrun, h]; rfl⟩
  | ok response =>
    rw [h] at hrun
    obtain ⟨es, hes⟩ := runOn_requireSuccess request.command response t
    exact ⟨x, t.noting es, hx, hs.noting es, by rw [runOn_bind_of_ok hrun, hes, h]; rfl⟩

end Client

/-! ## Over HTTPS -/

/-- A post brings a reply or fails on its way. It reports only for debugging, and only if payloads
are logged. -/
theorem Transport.https_post (endpoint : Endpoint σ) (config : Config) (command : Command)
    (body : String) (s : σ) :
    ∃ r es, ((https endpoint config).post command body s).1 =
        (r, if config.logPayloads then es else []) ∧
      (∀ e ∈ es, e.level = .debug) ∧
      ∀ e, r = .error e → ∃ why, e = .transport command (config.endpointUrl command.name) why := by
  have hlevel : ∀ (request : HttpRequest) (response : HttpResponse),
      ∀ e ∈ [request.event command, response.event command], e.level = .debug := by
    intro request response e he
    simp only [List.mem_cons, List.not_mem_nil, or_false] at he
    rcases he with rfl | rfl <;> rfl
  unfold https
  dsimp only
  split
  · exact ⟨_, [], by rw [ite_self], nofun, fun e he => ⟨_, (Except.error.inj he).symm⟩⟩
  · rename_i request hrequest
    split
    · refine ⟨_, [request.event command], rfl, fun e he => ?_,
        fun e he => ⟨_, (Except.error.inj he).symm⟩⟩
      rw [List.mem_singleton.mp he]
      rfl
    · rename_i response remote hresponse
      split
      · exact ⟨_, _, rfl, hlevel request response,
          fun e he => ⟨_, (Except.error.inj he).symm⟩⟩
      · exact ⟨_, _, rfl, hlevel request response, nofun⟩

end Provisioning.Es2
