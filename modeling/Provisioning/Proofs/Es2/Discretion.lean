import Provisioning.Proofs.Es2.Mirror
/-!
# What activation codes do not show in

Of an activation code a client only asks whether there is one. Two runs of the same calls, to
servers whose profiles differ in the codes that they give and in what else is only passed on, post
the same, log the same and return the same but for these values, as long as payloads are not logged.

* `ProfileStatus.Resembles` : profiles in the same state, both with an activation code or both
  without; `ConfirmOrderResponse.Resembles` : confirmations that differ in the device at most;
* `Alike` : replies to a function that are read as responses that resemble each other;
* `Client.Discreet` : a client that logs no payload; `Client.Agree` : two of them with the same
  identifiers and the same requester;
* `Client.HearAlike` : the replies to posts of the one and of the other are alike;
* `Session.Resembles` : sessions that have posted the same and logged the same; where replies
  announce other protocols, the same but for the warnings;
* `Client.Agree.perform` : every call keeps that;
* `Client.performAll_discreet` : so does every run of calls.
-/

namespace Provisioning.Es2

variable {σ τ α : Type}

/-! ## Responses -/

/-- The same state, and an activation code in both or in none. All else may differ. -/
structure ProfileStatus.Resembles (p q : ProfileStatus) : Prop where
  state : p.state = q.state
  code : p.acToken.isEmpty = q.acToken.isEmpty

/-- The same profiles, one by one, but for what may differ in them. -/
def ProfileStatusResponse.Resembles (a b : ProfileStatusResponse) : Prop :=
  List.Forall₂ ProfileStatus.Resembles a.profiles b.profiles

/-- The same but for the device, and devices related by `device`. -/
structure ConfirmOrderResponse.Resembles (device : Option String → Option String → Prop)
    (a b : ConfirmOrderResponse) : Prop where
  eid : device a.eid b.eid
  rest : { a with eid := none } = { b with eid := none }

/-- The same failure, but for the device in a confirmation that the server refuses. -/
inductive Error.Resembles (device : Option String → Option String → Prop) : Error → Error → Prop
  | same (e : Error) : Resembles device e e
  | refused (command : Command) (status : String) (data : StatusCodeData)
    {a b : ConfirmOrderResponse} (h : a.Resembles device b) :
    Resembles device (.commandFailed command status data (Response.toJson a))
      (.commandFailed command status data (Response.toJson b))

/-- What a call returns in two runs. -/
def Operation.Resembles (device : Option String → Option String → Prop) :
    (op : Operation) → op.Result → op.Result → Prop
  | getStatus _ => Option.Rel ProfileStatus.Resembles
  | recoverProfile _ _ => Eq
  | cancelOrder _ _ => Eq
  | downloadOrder _ => Eq
  | confirmOrder _ => ConfirmOrderResponse.Resembles device
  | activate _ => Option.Rel ProfileStatus.Resembles

theorem ConfirmOrderResponse.Resembles.header {device : Option String → Option String → Prop}
    {a b : ConfirmOrderResponse} (h : a.Resembles device b) : a.header = b.header := by
  have hheader := congrArg ConfirmOrderResponse.header h.rest
  exact hheader

theorem ActivationStep.of_resembles {p q : Option ProfileStatus}
    (h : Option.Rel ProfileStatus.Resembles p q) : of p = of q := by
  cases h with
  | none => rfl
  | some h =>
    unfold of ProfileStatus.activationCode?
    dsimp only
    rw [h.code, h.state]
    split <;> rfl

theorem map_state_of_resembles {p q : Option ProfileStatus}
    (h : Option.Rel ProfileStatus.Resembles p q) : p.map (·.state) = q.map (·.state) := by
  cases h with
  | none => rfl
  | some h => exact congrArg some h.state

/-! ## Replies -/

/-- The replies to a function are read as responses that resemble each other, or fail alike. -/
def Alike (device : Option String → Option String → Prop) (command : Command)
    (r r' : Except Error Reply) : Prop :=
  match command with
  | .getProfileStatus =>
    SameOutcome Eq ProfileStatusResponse.Resembles (settle command r) (settle command r')
  | .recoverProfile =>
    SameOutcome Eq (@Eq RecoverProfileResponse) (settle command r) (settle command r')
  | .cancelOrder => SameOutcome Eq (@Eq CancelOrderResponse) (settle command r) (settle command r')
  | .downloadOrder =>
    SameOutcome Eq (@Eq DownloadOrderResponse) (settle command r) (settle command r')
  | .confirmOrder =>
    SameOutcome Eq (ConfirmOrderResponse.Resembles device) (settle command r) (settle command r')

def announced : Except Error Reply → Option (Option String)
  | .ok reply => some reply.adminProtocol
  | .error _ => none

def protocolEvents (command : Command) : Except Error Reply → List Event
  | .ok reply =>
    if reply.adminProtocol != some adminProtocol then [protocolEvent command reply] else []
  | .error _ => []

theorem protocolEvents_congr (command : Command) {r r' : Except Error Reply}
    (h : announced r = announced r') : protocolEvents command r = protocolEvents command r' := by
  cases r with
  | error e =>
    cases r' with
    | error e' => rfl
    | ok reply' => cases h
  | ok reply =>
    cases r' with
    | error e' => cases h
    | ok reply' =>
      have hprotocol : reply.adminProtocol = reply'.adminProtocol := Option.some.inj h
      unfold protocolEvents protocolEvent
      dsimp only
      rw [hprotocol]

def notes (es : List Event) : List Event := es.filter fun e => !isWarning e

theorem notes_append (es es' : List Event) : notes (es ++ es') = notes es ++ notes es' :=
  List.filter_append es es'

theorem notes_protocolEvents (command : Command) (r : Except Error Reply) :
    notes (protocolEvents command r) = [] := by
  cases r with
  | error e => rfl
  | ok reply =>
    unfold protocolEvents
    dsimp only
    split <;> rfl

theorem extends_rows (iccid : String) (rows : List ProfileStatus) :
    Extends (match rows with
      | [] => pure none
      | [p] => pure (some p)
      | rows => throw (.multipleProfiles iccid rows.length) : Call σ (Option ProfileStatus)) := by
  split
  · exact .pure _
  · exact .pure _
  · exact .throw _

theorem Client.completedEvents_congr {E : Error → Error → Prop} {P : α → α → Prop}
    (command : Command) (callId : String) {r r' : Except Error α} (h : SameOutcome E P r r') :
    completedEvents command callId r = completedEvents command callId r' := by
  cases h with
  | ok h => rfl
  | error h => rfl

/-! ## Clients -/

/-- A client that logs no payload, over a transport that reports nothing. -/
structure Client.Discreet (c : Client σ) : Prop where
  logPayloads : c.logPayloads = false
  silent : ∀ command body s, (c.transport.post command body s).1.2 = []

/-- Clients that log no payloads, with the same identifiers and the same requester. -/
structure Client.Agree (c : Client σ) (c' : Client τ) : Prop where
  callIds : c.callIds = c'.callIds
  requesterId : c.requesterId = c'.requesterId
  discreet : c.Discreet
  discreet' : c'.Discreet

/-- Over HTTPS, nothing is reported unless payloads are logged. -/
theorem Transport.https_silent (endpoint : Endpoint σ) {config : Config}
    (h : config.logPayloads = false) (command : Command) (body : String) (s : σ) :
    ((https endpoint config).post command body s).1.2 = [] := by
  obtain ⟨r, es, hpost, -, -⟩ := https_post endpoint config command body s
  rw [hpost, h]
  rfl

theorem Client.discreet_https {c : Client σ} {endpoint : Endpoint σ} {config : Config}
    (htransport : c.transport = .https endpoint config) (hclient : c.logPayloads = false)
    (hconfig : config.logPayloads = false) : c.Discreet := by
  refine ⟨hclient, ?_⟩
  rw [htransport]
  exact Transport.https_silent endpoint hconfig

theorem Client.Discreet.settleEvents_eq [Response α] {c : Client σ} (h : c.Discreet)
    (command : Command) (callId : String) (r : Except Error Reply) :
    settleEvents α c command callId r =
      protocolEvents command r ++
        completedEvents command callId (settle command r : Except Error α) := by
  cases r with
  | error e => rfl
  | ok reply =>
    unfold settleEvents protocolEvents
    dsimp only
    rw [h.logPayloads, if_neg Bool.false_ne_true, List.nil_append]

/-- An exchange of a discreet client logs the protocol, if it is another, and the completion. -/
theorem Client.Discreet.exchanged_events [Response α] {c : Client σ} (h : c.Discreet)
    (request : Request) (callId : String) (s : Session σ) :
    (c.exchanged α request callId s).events = s.events ++
      (protocolEvents request.command (c.replyTo request callId s) ++
        completedEvents request.command callId
          (settle request.command (c.replyTo request callId s) : Except Error α)) := by
  have hrequest : c.requestEvents request.command (c.bodyOf request callId) = [] := by
    unfold requestEvents
    rw [h.logPayloads, if_neg Bool.false_ne_true]
  unfold exchanged
  rw [hrequest, h.settleEvents_eq, Session.noting_nil]
  show s.events ++ (c.transport.post request.command (c.bodyOf request callId) s.remote).1.2 ++ _ =
    _
  rw [h.silent, List.append_nil]

/-! ## Answers to posts -/

theorem Transport.length_answers (t : Transport σ) (ps : List (Command × String)) (s : σ) :
    (t.answers ps s).length = ps.length := by
  induction ps generalizing s with
  | nil => rfl
  | cons p ps ih => exact congrArg (· + 1) (ih _)

def Transport.announcements (t : Transport σ) (ps : List (Command × String)) (s : σ) :
    List (Option (Option String)) :=
  (t.answers ps s).map fun a => announced a.1

theorem Transport.announcements_concat (t : Transport σ) (ps : List (Command × String))
    (command : Command) (body : String) (s : σ) :
    t.announcements (ps ++ [(command, body)]) s =
      t.announcements ps s ++ [announced (t.post command body (t.behind ps s)).1.1] := by
  unfold announcements
  rw [t.answers_append, List.map_append]
  rfl

theorem Client.behind_exchanged (α : Type) [Response α] (c : Client σ) {remote : σ} {s : Session σ}
    (h : s.remote = c.transport.behind s.posted remote) (request : Request) (callId : String) :
    (c.exchanged α request callId s).remote =
      c.transport.behind (c.exchanged α request callId s).posted remote := by
  show (c.transport.post _ _ s.remote).2 =
    c.transport.behind (s.posted ++ [(request.command, c.bodyOf request callId)]) remote
  rw [Transport.behind_append, ← h]
  rfl

/-- As far as both runs go, each post gets replies that are alike. -/
def Client.HearAlike (device : Option String → Option String → Prop) (c : Client σ)
    (c' : Client τ) (remote : σ) (remote' : τ) (ps ps' : List (Command × String)) : Prop :=
  ∀ p a a', (p, a, a') ∈
      ps.zip ((c.transport.answers ps remote).zip (c'.transport.answers ps' remote')) →
    Alike device p.1 a.1 a'.1

section Runs

variable {device : Option String → Option String → Prop} {c : Client σ} {c' : Client τ}
  {remote : σ} {remote' : τ} {ps ps' : List (Command × String)}

/-- The replies to a post that both runs make behind the same posts. -/
theorem Client.HearAlike.alike (h : HearAlike device c c' remote remote' ps ps')
    {front : List (Command × String)} {command : Command} {body : String}
    (hps : front ++ [(command, body)] <+: ps) (hps' : front ++ [(command, body)] <+: ps') :
    Alike device command (c.transport.post command body (c.transport.behind front remote)).1.1
      (c'.transport.post command body (c'.transport.behind front remote')).1.1 := by
  obtain ⟨back, rfl⟩ := hps
  obtain ⟨back', rfl⟩ := hps'
  refine h (command, body) _ _ ?_
  rw [List.append_assoc, List.append_assoc, List.singleton_append, List.singleton_append,
    Transport.answers_append, Transport.answers_append,
    List.zip_append (by rw [Transport.length_answers, Transport.length_answers]),
    List.zip_append (by simp [Transport.length_answers])]
  exact List.mem_append_right _ List.mem_cons_self

/-! ## Sessions -/

/-- Sessions that have posted the same and logged the same. If replies have announced other
protocols, the warnings of these may differ. -/
structure Session.Resembles (c : Client σ) (c' : Client τ) (remote : σ) (remote' : τ)
    (s : Session σ) (t : Session τ) : Prop where
  behind : s.remote = c.transport.behind s.posted remote
  behind' : t.remote = c'.transport.behind t.posted remote'
  draws : s.draws = t.draws
  posted : s.posted = t.posted
  notes : notes s.events = notes t.events
  events : c.transport.announcements s.posted remote = c'.transport.announcements t.posted remote' →
    s.events = t.events

theorem Session.Resembles.noting {s : Session σ} {t : Session τ}
    (h : s.Resembles c c' remote remote' t) (es : List Event) :
    (s.noting es).Resembles c c' remote remote' (t.noting es) where
  behind := h.behind
  behind' := h.behind'
  draws := h.draws
  posted := h.posted
  notes := by
    show Es2.notes (s.events ++ es) = Es2.notes (t.events ++ es)
    rw [notes_append, notes_append, h.notes]
  events hannounced := congrArg (· ++ es) (h.events hannounced)

/-- Calls of two clients that go the same way in sessions that resemble each other, as far as they
stay within what the two runs post. -/
abbrev RunsAlike {β : Type} (device : Option String → Option String → Prop) (c : Client σ)
    (c' : Client τ) (remote : σ) (remote' : τ) (ps ps' : List (Command × String))
    (P : α → β → Prop) (x : Call σ α) (y : Call τ β) : Prop :=
  RelatedIn (fun s => s.posted <+: ps) (fun t => t.posted <+: ps')
    (Session.Resembles c c' remote remote') (Error.Resembles device) P x y

theorem isPast_posted (ps : List (Command × String)) :
    IsPast (fun s : Session σ => s.posted <+: ps) :=
  fun _ _ hsu hu => hsu.trans hu

theorem RunsAlike.emit (e : Event) :
    RunsAlike device c c' remote remote' ps ps' (fun _ _ => True) (emit e) (emit e) :=
  fun _ _ hs _ _ => ⟨.ok trivial, hs.noting [e]⟩

namespace Client

namespace Agree

theorem bodyOf (h : c.Agree c') (request : Request) (callId : String) :
    c.bodyOf request callId = c'.bodyOf request callId := by
  unfold Client.bodyOf
  rw [h.requesterId]

theorem replies_alike (h : c.Agree c') (halike : HearAlike device c c' remote remote' ps ps')
    {s : Session σ} {t : Session τ} (hs : s.Resembles c c' remote remote' t) {request : Request}
    {callId : String} (hps : s.posted ++ [(request.command, c.bodyOf request callId)] <+: ps)
    (hps' : t.posted ++ [(request.command, c'.bodyOf request callId)] <+: ps') :
    Alike device request.command (c.replyTo request callId s) (c'.replyTo request callId t) := by
  rw [← hs.posted] at hps'
  unfold replyTo
  rw [← h.bodyOf] at hps' ⊢
  rw [hs.behind, hs.behind', ← hs.posted]
  exact halike.alike hps hps'

/-- An exchange leaves sessions that resemble each other, if it ends alike in both. -/
theorem exchanged [Response α] {E : Error → Error → Prop} {P : α → α → Prop} (h : c.Agree c')
    {s : Session σ} {t : Session τ} (hs : s.Resembles c c' remote remote' t) {request : Request}
    {callId : String} (hsettled : SameOutcome E P
      (settle request.command (c.replyTo request callId s))
      (settle request.command (c'.replyTo request callId t))) :
    (c.exchanged α request callId s).Resembles c c' remote remote'
      (c'.exchanged α request callId t) := by
  have hcompleted := completedEvents_congr request.command callId hsettled
  constructor
  · exact c.behind_exchanged α hs.behind request callId
  · exact c'.behind_exchanged α hs.behind' request callId
  · exact congrArg (· + 1) hs.draws
  · show s.posted ++ [(request.command, c.bodyOf request callId)] =
      t.posted ++ [(request.command, c'.bodyOf request callId)]
    rw [hs.posted, h.bodyOf]
  · rw [h.discreet.exchanged_events, h.discreet'.exchanged_events, notes_append, notes_append,
      notes_append, notes_append, notes_protocolEvents, notes_protocolEvents, hs.notes, hcompleted]
  · intro hannounced
    change c.transport.announcements (s.posted ++ [_]) remote =
      c'.transport.announcements (t.posted ++ [_]) remote' at hannounced
    rw [Transport.announcements_concat, Transport.announcements_concat] at hannounced
    obtain ⟨hfront, hlast⟩ := List.append_inj' hannounced rfl
    have hprotocol : announced (c.replyTo request callId s) =
        announced (c'.replyTo request callId t) := by
      unfold replyTo
      rw [hs.behind, hs.behind']
      exact (List.cons.inj hlast).1
    rw [h.discreet.exchanged_events, h.discreet'.exchanged_events, hs.events hfront,
      protocolEvents_congr _ hprotocol, hcompleted]

/-- One exchange: the same post, and replies that are read alike. -/
theorem execute [Response α] {P : α → α → Prop} (h : c.Agree c')
    (halike : HearAlike device c c' remote remote' ps ps') (request : Request)
    (hread : ∀ r r', Alike device request.command r r' →
      SameOutcome Eq P (settle request.command r) (settle request.command r')) :
    RunsAlike device c c' remote remote' ps ps' P (c.execute request) (c'.execute request) := by
  intro s t hs hps hps'
  cases hdraw : c.callIds s.draws with
  | error why =>
    have hdraw' : c'.callIds t.draws = .error why := by rw [← h.callIds, ← hs.draws, hdraw]
    rw [runOn_execute_of_error hdraw, runOn_execute_of_error hdraw']
    exact ⟨.error (.same _), hs.behind, hs.behind', congrArg (· + 1) hs.draws, hs.posted,
      hs.notes, hs.events⟩
  | ok callId =>
    have hdraw' : c'.callIds t.draws = .ok callId := by rw [← h.callIds, ← hs.draws, hdraw]
    rw [runOn_execute hdraw] at hps ⊢
    rw [runOn_execute hdraw'] at hps' ⊢
    have hsettled := hread _ _ (h.replies_alike halike hs hps hps')
    refine ⟨hsettled.mono_error fun e e' he => ?_, h.exchanged hs hsettled⟩
    rw [he]
    exact .same e'

/-! ### Functions of the client -/

theorem getStatus (h : c.Agree c') (halike : HearAlike device c c' remote remote' ps ps')
    (iccid : String) :
    RunsAlike device c c' remote remote' ps ps' (Option.Rel ProfileStatus.Resembles)
      (c.getStatus iccid) (c'.getStatus iccid) := by
  have hpoll := h.execute halike (.getProfileStatus iccid) (α := ProfileStatusResponse)
    fun _ _ hrr => hrr
  refine hpoll.bind (fun a => (isPast_posted ps).backs (extends_rows iccid a.profiles))
    (fun a => (isPast_posted ps').backs (extends_rows iccid a.profiles)) ?_
  rintro ⟨_, rows, _⟩ ⟨_, rows', _⟩ (hrows : List.Forall₂ ProfileStatus.Resembles rows rows')
  cases hrows with
  | nil => exact .pure .none
  | cons hp hrest =>
    cases hrest with
    | nil => exact .pure (.some hp)
    | cons hp' hrest =>
      have hlength := hrest.length_eq
      dsimp only [List.length_cons]
      rw [hlength]
      exact .throw (.same _)

theorem execute_requireSuccess [Response α] {P : α → α → Prop} (h : c.Agree c')
    (halike : HearAlike device c c' remote remote' ps ps') (request : Request)
    (hread : ∀ r r', Alike device request.command r r' →
      SameOutcome Eq P (settle request.command r) (settle request.command r'))
    (hheader : ∀ a b : α, P a b →
      (Response.header a).executionStatus = (Response.header b).executionStatus)
    (hrefused : ∀ (a b : α) status data, P a b → Error.Resembles device
      (.commandFailed request.command status data (Response.toJson a))
      (.commandFailed request.command status data (Response.toJson b))) :
    RunsAlike device c c' remote remote' ps ps' P
      (c.execute request >>= requireSuccess request.command)
      (c'.execute request >>= requireSuccess request.command) := by
  refine (h.execute halike request hread).bind
    (fun a => (isPast_posted ps).backs (requireSuccess_extends request.command a))
    (fun a => (isPast_posted ps').backs (requireSuccess_extends request.command a))
    fun a b hab => ?_
  exact RelatedIn.requireSuccess RunsAlike.emit request.command hab (hheader a b hab)
    fun status data => hrefused a b status data hab

theorem downloadOrder (h : c.Agree c') (halike : HearAlike device c c' remote remote' ps ps')
    (iccid : String) :
    RunsAlike device c c' remote remote' ps ps' Eq (c.downloadOrder iccid)
      (c'.downloadOrder iccid) := by
  refine h.execute_requireSuccess halike (.downloadOrder iccid) (fun _ _ hrr => hrr) ?_ ?_
  · rintro a b rfl
    rfl
  · rintro a b status data rfl
    exact .same _

theorem confirmOrder (h : c.Agree c') (halike : HearAlike device c c' remote remote' ps ps')
    (iccid : String) :
    RunsAlike device c c' remote remote' ps ps' (ConfirmOrderResponse.Resembles device)
      (c.confirmOrder iccid) (c'.confirmOrder iccid) := by
  refine h.execute_requireSuccess halike (.confirmOrder iccid) (fun _ _ hrr => hrr) ?_ ?_
  · intro a b hab
    exact congrArg ResponseHeader.executionStatus hab.header
  · intro a b status data hab
    exact .refused _ status data hab

theorem activate (h : c.Agree c') (halike : HearAlike device c c' remote remote' ps ps')
    (iccid : String) :
    RunsAlike device c c' remote remote' ps ps' (Option.Rel ProfileStatus.Resembles)
      (c.activate iccid) (c'.activate iccid) :=
  RelatedIn.activate (isPast_posted ps) (isPast_posted ps') (h.getStatus halike iccid)
    ((h.downloadOrder halike iccid).mono fun _ _ _ => trivial)
    ((h.confirmOrder halike iccid).mono fun _ _ _ => trivial) RunsAlike.emit
    (fun _ _ => ActivationStep.of_resembles) fun _ _ => map_state_of_resembles

theorem perform (h : c.Agree c') (halike : HearAlike device c c' remote remote' ps ps')
    (op : Operation) :
    RunsAlike device c c' remote remote' ps ps' (op.Resembles device) (c.perform op)
      (c'.perform op) := by
  cases op with
  | getStatus iccid => exact h.getStatus halike iccid
  | recoverProfile iccid target =>
    exact h.execute halike (.recoverProfile iccid target) fun _ _ hrr => hrr
  | cancelOrder iccid target =>
    exact h.execute halike (.cancelOrder iccid target) fun _ _ hrr => hrr
  | downloadOrder iccid => exact h.downloadOrder halike iccid
  | confirmOrder iccid => exact h.confirmOrder halike iccid
  | activate iccid => exact h.activate halike iccid

end Agree

end Client

end Runs

/-! ## Runs of calls -/

section Runs

variable {device : Option String → Option String → Prop} {c : Client σ} {c' : Client τ}

/-- Two runs of the same calls, by clients with the same identifiers that log no payloads. The
replies to each post are read as responses that differ in the activation codes, both empty or both
not, and in what is only passed on. Then the runs post the same and log the same, and each call
returns the same but for these values. The protocol that a reply announces is no part of a response:
where the replies announce other protocols, the logs differ in the warnings of that. -/
theorem Client.performAll_discreet (h : c.Agree c') (remote : σ) (remote' : τ)
    (ops : List Operation)
    (halike : HearAlike device c c' remote remote' (c.performAll ops (.start remote)).posted
      (c'.performAll ops (.start remote')).posted) :
    (c.performAll ops (.start remote)).posted = (c'.performAll ops (.start remote')).posted ∧
      notes (c.performAll ops (.start remote)).events =
        notes (c'.performAll ops (.start remote')).events ∧
      (c.transport.announcements (c.performAll ops (.start remote)).posted remote =
          c'.transport.announcements (c'.performAll ops (.start remote')).posted remote' →
        (c.performAll ops (.start remote)).events =
          (c'.performAll ops (.start remote')).events) ∧
      ∀ front op back, ops = front ++ op :: back →
        SameOutcome (Error.Resembles device) (op.Resembles device)
          (c.performAfter remote front op).1 (c'.performAfter remote' front op).1 := by
  have hstart : Session.Resembles c c' remote remote' (.start remote) (.start remote') :=
    ⟨rfl, rfl, rfl, rfl, rfl, fun _ => rfl⟩
  have hrun : ∀ front back, ops = front ++ back →
      (c.performAll front (.start remote)).posted <+: (c.performAll ops (.start remote)).posted ∧
      (c'.performAll front (.start remote')).posted <+:
        (c'.performAll ops (.start remote')).posted := by
    rintro front back rfl
    rw [c.performAll_append, c'.performAll_append]
    exact ⟨c.performAll_extends back _, c'.performAll_extends back _⟩
  have hsessions : ∀ front back, ops = front ++ back → Session.Resembles c c' remote remote'
      (c.performAll front (.start remote)) (c'.performAll front (.start remote')) :=
    fun front back hops => RelatedIn.performAll (isPast_posted _) (isPast_posted _)
      (h.perform halike) front hstart (hrun front back hops).1 (hrun front back hops).2
  have hall := hsessions ops [] (List.append_nil _).symm
  refine ⟨hall.posted, hall.notes, hall.events, ?_⟩
  intro front op back hops
  obtain ⟨hpast, hpast'⟩ := hrun (front ++ [op]) back (by rw [hops, List.append_assoc]; rfl)
  rw [c.performAll_append, c'.performAll_append] at *
  exact (h.perform halike op (hsessions front (op :: back) hops) hpast hpast').1

end Runs

/-! ## Two servers with one profile -/

theorem Transport.replay_answers {A : Except Error Reply → Except Error Reply → Prop}
    {exhausted : Error} (hexhausted : A (.error exhausted) (.error exhausted))
    (ps ps' : List (Command × String)) {rs rs' : List (Except Error Reply)}
    (h : List.Forall₂ A rs rs') {a a' : Answer}
    (ha : (a, a') ∈
      ((replay exhausted).answers ps rs).zip ((replay exhausted).answers ps' rs')) :
    A a.1 a'.1 := by
  induction ps generalizing ps' rs rs' with
  | nil => cases ha
  | cons p ps ih =>
    rcases ps' with - | ⟨p', ps'⟩
    · cases ha
    · cases h with
      | nil =>
        rcases List.mem_cons.mp ha with heq | ha
        · cases heq
          exact hexhausted
        · exact ih ps' .nil ha
      | cons hr hrs =>
        rcases List.mem_cons.mp ha with heq | ha
        · cases heq
          exact hr
        · exact ih ps' hrs ha

/-- The reply to a poll, with a profile that was released under a code and for a device. -/
def releasedReply (code device : String) : Reply where
  status := 200
  adminProtocol := some adminProtocol
  body := Utf8.encodeText ("\x7b\"profileStatusList\":[\x7b\"state\":\"RELEASED\",\"acToken\":\"" ++
    code ++ "\",\"eid\":\"" ++ device ++ "\"\x7d]\x7d")

def releasedResponse (code device : String) : ProfileStatusResponse where
  profiles := [{ state := .released, acToken := code, eid := device }]

theorem settle_releasedReply :
    settle .getProfileStatus (.ok (releasedReply "A" "89")) = .ok (releasedResponse "A" "89") ∧
      settle .getProfileStatus (.ok (releasedReply "B" "90")) =
        .ok (releasedResponse "B" "90") := by
  have hfirst : Json.decode Response.decoder (releasedReply "A" "89").body =
      .ok (releasedResponse "A" "89") := by decide +kernel
  have hsecond : Json.decode Response.decoder (releasedReply "B" "90").body =
      .ok (releasedResponse "B" "90") := by decide +kernel
  unfold settle
  dsimp only
  rw [hfirst, hsecond]
  exact ⟨rfl, rfl⟩

def releasedReplies (code device : String) : List (Except Error Reply) :=
  [.ok (releasedReply code device), .ok (releasedReply code device)]

/-- Two profiles with codes of their own, for devices of their own, leave the same log. -/
theorem Client.ample_discreet :
    ((ample false).performAll [.activate "1"] (.start (releasedReplies "A" "89"))).events =
      ((ample false).performAll [.activate "1"] (.start (releasedReplies "B" "90"))).events ∧
    ((ample false).performAfter (releasedReplies "A" "89") [] (.activate "1")).1.toOption =
        some (releasedResponse "A" "89").profiles.head? ∧
    ((ample false).performAfter (releasedReplies "B" "90") [] (.activate "1")).1.toOption =
        some (releasedResponse "B" "90").profiles.head? := by
  have hdiscreet : (ample false).Discreet := by
    refine ⟨rfl, ?_⟩
    intro command body s
    cases s <;> rfl
  have hpolls : ∀ p ∈ ((ample false).performAll [.activate "1"]
      (.start (releasedReplies "A" "89"))).posted, p.1 = .getProfileStatus := by decide +kernel
  have hreplies : Alike Eq .getProfileStatus (.ok (releasedReply "A" "89"))
      (.ok (releasedReply "B" "90")) := by
    obtain ⟨hfirst, hsecond⟩ := settle_releasedReply
    unfold Alike
    dsimp only
    rw [hfirst, hsecond]
    exact .ok (.cons ⟨rfl, rfl⟩ .nil)
  have halike : HearAlike Eq (ample false) (ample false) (releasedReplies "A" "89")
      (releasedReplies "B" "90")
      ((ample false).performAll [.activate "1"] (.start (releasedReplies "A" "89"))).posted
      ((ample false).performAll [.activate "1"] (.start (releasedReplies "B" "90"))).posted := by
    intro p a a' hp
    obtain ⟨hp, ha⟩ := List.of_mem_zip hp
    rw [hpolls p hp]
    exact Transport.replay_answers (.error rfl) _ _ (.cons hreplies (.cons hreplies .nil)) ha
  obtain ⟨-, -, hevents, -⟩ := performAll_discreet ⟨rfl, rfl, hdiscreet, hdiscreet⟩ _ _ _ halike
  refine ⟨hevents ?_, ?_, ?_⟩
  · decide +kernel
  · decide +kernel
  · decide +kernel

end Provisioning.Es2
