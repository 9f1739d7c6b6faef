import Provisioning.Proofs.Es2.Operation
/-!
# Warnings of a run

The client warns of each reply that does not announce its protocol, and of nothing else.

* `Transport.answers`, `Transport.behind` : the answers to posts, one after another, and the server
  behind them;
* `due` : the warnings for answers: one for each reply that announces no or another protocol, and
  what the transport itself has reported;
* `Transport.Quiet` : a transport that reports no warning; `Transport.https_quiet` is one;
* `Tallies` : a session behind another, with the warnings that are due;
* `Blames` : the status in a failure is that of the last reply;
* `Tallied` : calls of which both hold; `Client.perform_tallied` : all calls are such.
-/

namespace Provisioning.Es2

variable {σ α β : Type}

/-! ## Answers -/

/-- What a transport gives back for a post: a reply or a failure, and what it reports. -/
abbrev Answer := Except Error Reply × List Event

namespace Transport

def answers (t : Transport σ) : List (Command × String) → σ → List Answer
  | [], _ => []
  | (command, body) :: ps, s =>
    (t.post command body s).1 :: t.answers ps (t.post command body s).2

def behind (t : Transport σ) : List (Command × String) → σ → σ
  | [], s => s
  | (command, body) :: ps, s => t.behind ps (t.post command body s).2

theorem behind_append (t : Transport σ) (ps qs : List (Command × String)) (s : σ) :
    t.behind (ps ++ qs) s = t.behind qs (t.behind ps s) := by
  induction ps generalizing s with
  | nil => rfl
  | cons p ps ih => exact ih _

theorem answers_append (t : Transport σ) (ps qs : List (Command × String)) (s : σ) :
    t.answers (ps ++ qs) s = t.answers ps s ++ t.answers qs (t.behind ps s) := by
  induction ps generalizing s with
  | nil => rfl
  | cons p ps ih => exact congrArg _ (ih _)

end Transport

/-! ## Warnings -/

def isWarning (e : Event) : Bool := e.level == .warn

def Session.warnings (s : Session σ) : Nat := s.events.countP isWarning

theorem Session.warnings_noting (s : Session σ) (es : List Event) :
    (s.noting es).warnings = s.warnings + es.countP isWarning :=
  List.countP_append

theorem Session.warnings_posting (s : Session σ) (t : Transport σ) (command : Command)
    (body : String) : (s.posting t command body).warnings =
      s.warnings + (t.post command body s.remote).1.2.countP isWarning :=
  List.countP_append

/-- A reply that announces no or another protocol. -/
def misannounces : Except Error Reply → Bool
  | .ok reply => reply.adminProtocol != some adminProtocol
  | .error _ => false

/-- The warnings that answers call for. -/
def due (as : List Answer) : Nat :=
  as.countP (fun a => misannounces a.1) + (as.flatMap (·.2)).countP isWarning

theorem due_append (as bs : List Answer) : due (as ++ bs) = due as + due bs := by
  unfold due
  rw [List.countP_append, List.flatMap_append, List.countP_append]
  omega

def Transport.Quiet (t : Transport σ) : Prop :=
  ∀ command body s, (t.post command body s).1.2.countP isWarning = 0

theorem Transport.replay_quiet (exhausted : Error) : (replay exhausted).Quiet := by
  intro command body s
  cases s <;> rfl

theorem Transport.https_quiet (endpoint : Endpoint σ) (config : Config) :
    (https endpoint config).Quiet := by
  intro command body s
  obtain ⟨r, es, hpost, hdebug, -⟩ := https_post endpoint config command body s
  rw [hpost]
  refine List.countP_eq_zero.mpr fun e he => ?_
  have hlogged : e ∈ es := by
    split at he
    · exact he
    · cases he
  rw [isWarning, hdebug e hlogged]
  exact Bool.false_ne_true

theorem Transport.Quiet.due_answers {t : Transport σ} (h : t.Quiet) (ps : List (Command × String))
    (s : σ) : due (t.answers ps s) = (t.answers ps s).countP fun a => misannounces a.1 := by
  have hreported : ((t.answers ps s).flatMap (·.2)).countP isWarning = 0 := by
    induction ps generalizing s with
    | nil => rfl
    | cons p ps ih =>
      unfold answers
      rw [List.flatMap_cons, List.countP_append, h, ih]
  unfold due
  rw [hreported, Nat.add_zero]

/-- A session behind another: what was posted, the server behind that, and the warnings. -/
structure Tallies (t : Transport σ) (s : Session σ) (ps : List (Command × String))
    (u : Session σ) : Prop where
  posted : u.posted = s.posted ++ ps
  remote : u.remote = t.behind ps s.remote
  warnings : u.warnings = s.warnings + due (t.answers ps s.remote)

namespace Tallies

variable {t : Transport σ} {s u v : Session σ} {ps qs : List (Command × String)}

theorem refl (t : Transport σ) (s : Session σ) : Tallies t s [] s :=
  ⟨(List.append_nil _).symm, rfl, rfl⟩

theorem trans (h : Tallies t s ps u) (h' : Tallies t u qs v) : Tallies t s (ps ++ qs) v := by
  refine ⟨?_, ?_, ?_⟩
  · rw [h'.posted, h.posted, List.append_assoc]
  · rw [h'.remote, h.remote, t.behind_append]
  · rw [h'.warnings, h.warnings, h.remote, t.answers_append, due_append, Nat.add_assoc]

theorem noting (h : Tallies t s ps u) {es : List Event} (hes : es.countP isWarning = 0) :
    Tallies t s ps (u.noting es) :=
  ⟨h.posted, h.remote, by rw [Session.warnings_noting, hes, Nat.add_zero, h.warnings]⟩

end Tallies

/-! ## The status in a failure -/

def lastReply? (as : List Answer) : Option (Except Error Reply) := as.getLast?.map (·.1)

/-- When a reply cannot be read, the failure has the status of the last reply; or else it is the
failure of the transport itself. -/
def Blames (as : List Answer) (r : Except Error α) : Prop :=
  ∀ command status fault, r = .error (.decode command status fault) →
    (∃ reply, lastReply? as = some (.ok reply) ∧ reply.status = status) ∨
      lastReply? as = some (.error (.decode command status fault))

theorem lastReply?_append {as bs : List Answer} {r : Except Error Reply}
    (h : lastReply? bs = some r) : lastReply? (as ++ bs) = some r := by
  obtain ⟨b, hb, rfl⟩ := Option.map_eq_some_iff.mp h
  unfold lastReply?
  rw [List.getLast?_append, hb]
  rfl

namespace Blames

theorem ok {as : List Answer} (a : α) : Blames as (.ok a) := by
  intro command status fault h
  cases h

theorem error {as : List Answer} {e : Error} (h : ∀ command status fault,
    e ≠ .decode command status fault) : Blames as (.error e : Except Error α) := by
  intro command status fault heq
  exact absurd (Except.error.inj heq) (h command status fault)

theorem append {bs : List Answer} {r : Except Error α} (h : Blames bs r) (as : List Answer) :
    Blames (as ++ bs) r := by
  intro command status fault hr
  rcases h command status fault hr with ⟨reply, hlast, hstatus⟩ | hlast
  · exact .inl ⟨reply, lastReply?_append hlast, hstatus⟩
  · exact .inr (lastReply?_append hlast)

end Blames

/-! ## Calls -/

/-- A call that warns of what it should, and fails with the status of its last reply. -/
def Tallied (t : Transport σ) (x : Call σ α) : Prop :=
  ∀ s, ∃ ps, Tallies t s ps (runOn x s).2 ∧ Blames (t.answers ps s.remote) (runOn x s).1

namespace Tallied

variable {t : Transport σ}

theorem pure (a : α) : Tallied t (Pure.pure a) := fun s => ⟨[], .refl t s, .ok a⟩

theorem throw {e : Error} (h : ∀ command status fault, e ≠ .decode command status fault) :
    Tallied t (MonadExcept.throw e : Call σ α) :=
  fun s => ⟨[], .refl t s, .error h⟩

theorem emit {e : Event} (h : isWarning e = false) : Tallied t (Es2.emit e) := by
  intro s
  refine ⟨[], (Tallies.refl t s).noting ?_, .ok ()⟩
  rw [List.countP_singleton, h]
  rfl

theorem bind {x : Call σ α} {f : α → Call σ β} (hx : Tallied t x) (hf : ∀ a, Tallied t (f a)) :
    Tallied t (x >>= f) := by
  intro s
  obtain ⟨ps, htally, hblames⟩ := hx s
  rw [runOn_bind]
  generalize runOn x s = p at htally hblames ⊢
  obtain ⟨r, u⟩ := p
  cases r with
  | error e =>
    refine ⟨ps, htally, ?_⟩
    intro command status fault heq
    exact hblames command status fault (congrArg _ (Except.error.inj heq))
  | ok a =>
    obtain ⟨qs, htally', hblames'⟩ := hf a u
    refine ⟨ps ++ qs, htally.trans htally', ?_⟩
    rw [t.answers_append, ← htally.remote]
    exact hblames'.append _

end Tallied

namespace Client

variable (c : Client σ)

theorem requestEvents_countP (command : Command) (body : String) :
    (c.requestEvents command body).countP isWarning = 0 := by
  unfold requestEvents
  split <;> rfl

theorem settleEvents_countP [Response α] (command : Command) (callId : String)
    (r : Except Error Reply) :
    (settleEvents α c command callId r).countP isWarning = if misannounces r then 1 else 0 := by
  cases r with
  | error e => rfl
  | ok reply =>
    have hreply : (if c.logPayloads then [replyEvent command reply] else []).countP
        isWarning = 0 := by
      split <;> rfl
    have hcompleted : (completedEvents command callId
        (settle command (.ok reply) : Except Error α)).countP isWarning = 0 := by
      cases (settle command (.ok reply) : Except Error α) <;> rfl
    unfold settleEvents misannounces
    rw [List.countP_append, List.countP_append, hreply, hcompleted]
    split <;> rfl

theorem settle_blames [Response α] (command : Command) (answer : Answer) :
    Blames [answer] (settle command answer.1 : Except Error α) := by
  obtain ⟨r, es⟩ := answer
  intro command' status fault h
  cases r with
  | error e =>
    cases h
    exact .inr rfl
  | ok reply =>
    rcases settle_ok_cases α command reply with ⟨a, -, ha⟩ | ⟨f, hf⟩
    · cases ha.symm.trans h
    · cases hf.symm.trans h
      exact .inl ⟨reply, rfl, rfl⟩

theorem exchanged_warnings [Response α] (request : Request) (callId : String) (s : Session σ) :
    (c.exchanged α request callId s).warnings = s.warnings +
      due [(c.transport.post request.command (c.bodyOf request callId) s.remote).1] := by
  unfold exchanged
  rw [Session.warnings_noting, Session.warnings_posting, Session.warnings_noting,
    c.requestEvents_countP, c.settleEvents_countP]
  unfold due replyTo
  rw [List.countP_singleton, List.flatMap_singleton]
  show s.warnings + 0 + (c.transport.post request.command (c.bodyOf request callId)
    s.remote).1.2.countP isWarning + _ = _
  omega

theorem execute_tallied [Response α] (request : Request) :
    Tallied c.transport (c.execute request : Call σ α) := by
  intro s
  cases hdraw : c.callIds s.draws with
  | error why =>
    rw [runOn_execute_of_error hdraw]
    exact ⟨[], ⟨(List.append_nil _).symm, rfl, rfl⟩, .error (by nofun)⟩
  | ok callId =>
    rw [runOn_execute hdraw]
    refine ⟨[(request.command, c.bodyOf request callId)], ⟨rfl, rfl, ?_⟩, ?_⟩
    · exact c.exchanged_warnings request callId s
    · exact settle_blames request.command _

theorem requireSuccess_tallied [Response α] (t : Transport σ) (command : Command) (a : α) :
    Tallied t (requireSuccess command a) := by
  unfold requireSuccess
  dsimp only
  split
  · exact (Tallied.emit rfl).bind fun _ => .pure a
  · exact (Tallied.emit rfl).bind fun _ => .throw (by nofun)

theorem getStatus_tallied (iccid : String) : Tallied c.transport (c.getStatus iccid) := by
  refine (c.execute_tallied _).bind fun response => ?_
  split
  · exact .pure none
  · exact .pure _
  · exact .throw (by nofun)

theorem downloadOrder_tallied (iccid : String) : Tallied c.transport (c.downloadOrder iccid) :=
  (c.execute_tallied _).bind (requireSuccess_tallied c.transport _)

theorem confirmOrder_tallied (iccid : String) : Tallied c.transport (c.confirmOrder iccid) :=
  (c.execute_tallied _).bind (requireSuccess_tallied c.transport _)

theorem activate_tallied (iccid : String) : Tallied c.transport (c.activate iccid) := by
  have hclosing : Tallied c.transport (c.closing iccid) :=
    (c.getStatus_tallied iccid).bind fun p => (Tallied.emit rfl).bind fun _ => .pure p
  have hconfirming : Tallied c.transport (c.confirming iccid) :=
    (c.confirmOrder_tallied iccid).bind fun _ => (Tallied.emit rfl).bind fun _ => hclosing
  have hrechecking : Tallied c.transport (c.rechecking iccid) := by
    refine (c.getStatus_tallied iccid).bind fun p => (Tallied.emit rfl).bind fun _ => ?_
    split
    · exact hconfirming
    · exact hclosing
  rw [c.activate_eq]
  refine (c.getStatus_tallied iccid).bind fun p => (Tallied.emit rfl).bind fun _ => ?_
  cases ActivationStep.of p with
  | needsDownload => exact (c.downloadOrder_tallied iccid).bind fun _ => hrechecking
  | needsConfirm => exact hconfirming
  | provisioned => exact hclosing
  | unknown => exact hclosing

theorem perform_tallied (op : Operation) : Tallied c.transport (c.perform op) := by
  cases op with
  | getStatus iccid => exact c.getStatus_tallied iccid
  | recoverProfile iccid target => exact c.execute_tallied _
  | cancelOrder iccid target => exact c.execute_tallied _
  | downloadOrder iccid => exact c.downloadOrder_tallied iccid
  | confirmOrder iccid => exact c.confirmOrder_tallied iccid
  | activate iccid => exact c.activate_tallied iccid

theorem performAll_tallies (ops : List Operation) (s : Session σ) :
    ∃ ps, Tallies c.transport s ps (c.performAll ops s) := by
  induction ops generalizing s with
  | nil => exact ⟨[], .refl c.transport s⟩
  | cons op ops ih =>
    obtain ⟨ps, htally, -⟩ := c.perform_tallied op s
    obtain ⟨qs, hrest⟩ := ih (runOn (c.perform op) s).2
    exact ⟨ps ++ qs, htally.trans hrest⟩

end Client

end Provisioning.Es2
