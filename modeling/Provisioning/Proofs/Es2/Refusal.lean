import Provisioning.Proofs.Es2.Mirror
/-!
# Refused functions in an activation

A server may answer that it did not execute a function. An activation that ends well has been told
of success for its order and for its confirmation. Of a poll only the list of profiles counts: a
refused one passes for the news that there is no such profile.

* `Exchange.Brings` : the reply of an exchange is read as a response;
* `Exchange.Accepted` : a reply that an activation goes on behind;
* `Client.activate_accepts` : all replies to an activation that ends well are such, and what it
  returns is what the last poll lists;
* `Exchange.Executed` : the server says that it executed what was asked;
* `Client.not_activate_executed` : not every reply to an activation that ends well says so.
-/

namespace Provisioning.Es2

variable {σ α : Type}

/-! ## Responses -/

def Exchange.Brings [Response α] (x : Exchange) (a : α) : Prop :=
  ∃ reply, x.reply = .ok reply ∧ Json.decode Response.decoder reply.body = .ok a

theorem Exchange.brings_of_settle [Response α] {x : Exchange} {command : Command} {a : α}
    (h : settle command x.reply = .ok a) : x.Brings a := by
  cases hr : x.reply with
  | error e =>
    rw [hr] at h
    cases h
  | ok reply =>
    rw [hr] at h
    refine ⟨reply, hr, ?_⟩
    rcases settle_ok_cases α command reply with ⟨b, hread, hb⟩ | ⟨fault, hfault⟩
    · obtain rfl := Except.ok.inj (hb.symm.trans h)
      exact hread
    · cases hfault.symm.trans h

/-- The server says that it executed what was asked. -/
def Exchange.Executed (x : Exchange) : Prop :=
  match x.request with
  | .getProfileStatus _ => ∃ a : ProfileStatusResponse, x.Brings a ∧ isSuccess a = true
  | .recoverProfile _ _ => ∃ a : RecoverProfileResponse, x.Brings a ∧ isSuccess a = true
  | .cancelOrder _ _ => ∃ a : CancelOrderResponse, x.Brings a ∧ isSuccess a = true
  | .downloadOrder _ => ∃ a : DownloadOrderResponse, x.Brings a ∧ isSuccess a = true
  | .confirmOrder _ => ∃ a : ConfirmOrderResponse, x.Brings a ∧ isSuccess a = true

/-- A reply that an activation goes on behind. Whether a poll was executed is not asked. -/
inductive Exchange.Accepted (iccid : String) (x : Exchange) : Prop
  | poll (a : ProfileStatusResponse) (hreq : x.request = .getProfileStatus iccid)
      (hbrings : x.Brings a) (hlist : a.profiles.length ≤ 1)
  | order (hreq : x.request = .downloadOrder iccid) (hexecuted : x.Executed)
  | confirm (hreq : x.request = .confirmOrder iccid) (hexecuted : x.Executed)

theorem isSuccess_of_executed [Response α] {command : Command} {a b : α}
    (h : executed command a = .ok b) : isSuccess a = true := by
  unfold executed at h
  split at h
  · assumption
  · cases h

theorem Exchange.exists_of_executed [Response α] {x : Exchange} {command : Command}
    {p : Option ProfileStatus}
    (h : ((settle command x.reply : Except Error α).bind (executed command)).map (fun _ => none) =
      .ok p) : ∃ a : α, x.Brings a ∧ isSuccess a = true := by
  cases hs : (settle command x.reply : Except Error α) with
  | error e =>
    rw [hs] at h
    cases h
  | ok a =>
    rw [hs] at h
    cases he : executed command a with
    | error e =>
      rw [Except.bind, he] at h
      cases h
    | ok b => exact ⟨a, brings_of_settle hs, isSuccess_of_executed he⟩

/-- A poll that does not fail brings a list with the snapshot, or an empty one. -/
theorem Exchange.exists_of_poll {x : Exchange} {iccid : String} {p : Option ProfileStatus}
    (hreq : x.request = .getProfileStatus iccid) (h : x.result = .ok p) :
    ∃ a : ProfileStatusResponse, x.Brings a ∧ a.profiles = p.toList := by
  unfold result at h
  rw [hreq] at h
  dsimp only at h
  cases hs : (settle .getProfileStatus x.reply : Except Error ProfileStatusResponse) with
  | error e =>
    rw [hs] at h
    cases h
  | ok a =>
    rw [hs] at h
    refine ⟨a, brings_of_settle hs, ?_⟩
    change snapshot iccid a.profiles = .ok p at h
    rcases hps : a.profiles with - | ⟨q, - | ⟨q', qs⟩⟩
    · rw [hps] at h
      cases h
      rfl
    · rw [hps] at h
      cases h
      rfl
    · rw [hps] at h
      cases h

/-- What a stage of an activation asks for, and gets without a failure, is accepted. -/
theorem Exchange.accepted_of_ok {x : Exchange} {iccid : String} {stage : Stage}
    {p : Option ProfileStatus} (hreq : x.request = stage.request iccid) (h : x.result = .ok p) :
    x.Accepted iccid := by
  have hpoll : x.request = .getProfileStatus iccid → x.Accepted iccid := by
    intro hget
    obtain ⟨a, ha, hlist⟩ := exists_of_poll hget h
    refine .poll a hget ha ?_
    rw [hlist]
    exact Option.length_toList_le
  cases stage with
  | check => exact hpoll hreq
  | recheck => exact hpoll hreq
  | close => exact hpoll hreq
  | order =>
    have hreq' : x.request = .downloadOrder iccid := hreq
    unfold result at h
    rw [hreq'] at h
    refine .order hreq' ?_
    unfold Executed
    rw [hreq']
    exact exists_of_executed h
  | confirm =>
    have hreq' : x.request = .confirmOrder iccid := hreq
    unfold result at h
    rw [hreq'] at h
    refine .confirm hreq' ?_
    unfold Executed
    rw [hreq']
    exact exists_of_executed h

/-! ## Activations -/

theorem Walk.exists_stage {c : Client σ} {iccid : String} {stage : Stage} {xs : List Exchange}
    {s u : Session σ} (h : Walk c iccid stage xs s u) {x : Exchange} (hx : x ∈ xs) :
    ∃ stage : Stage, x.request = stage.request iccid := by
  induction h with
  | last hreq _ _ =>
    obtain rfl := List.mem_singleton.mp hx
    exact ⟨_, hreq⟩
  | step hreq _ _ _ ih =>
    rcases List.mem_cons.mp hx with rfl | hx
    · exact ⟨_, hreq⟩
    · exact ih hx

theorem Walk.ok_of_last {c : Client σ} {iccid : String} {stage : Stage} {xs : List Exchange}
    {x : Exchange} {s u : Session σ} (h : Walk c iccid stage (xs ++ [x]) s u)
    {p : Option ProfileStatus} (hp : x.result = .ok p) :
    ∀ y ∈ xs ++ [x], ∃ q, y.result = .ok q := by
  intro y hy
  cases hr : y.result with
  | ok q => exact ⟨q, rfl⟩
  | error e =>
    obtain ⟨front, back, hsplit⟩ := List.append_of_mem hy
    obtain rfl := h.eq_nil_of_error hsplit hr
    obtain ⟨-, hlast⟩ := List.append_inj' hsplit rfl
    cases hlast
    cases hp.symm.trans hr

/-- Behind an activation that ends well, each reply was accepted: the server has said that it
executed the order and the confirmation, and in each poll it listed one profile at most, whatever
it said of the execution. What is returned is what the last poll listed. -/
theorem Client.activate_accepts {c : Client σ} {iccid : String} {s u : Session σ}
    {p : Option ProfileStatus} (h : runOn (c.activate iccid) s = (.ok p, u)) :
    ∃ xs x, Exchanges c (xs ++ [x]) s u ∧
      u.posted = s.posted ++ (xs ++ [x]).flatMap (·.posts) ∧
      (∀ y ∈ xs ++ [x], y.Accepted iccid) ∧ x.request = .getProfileStatus iccid ∧
      ∃ a : ProfileStatusResponse, x.Brings a ∧ a.profiles = p.toList := by
  obtain ⟨xs, x, t, hwalk, hrun⟩ := c.resume_walks iccid .check s
  obtain ⟨hx, rfl⟩ := Prod.mk.inj (hrun.symm.trans h)
  have hok := hwalk.ok_of_last hx
  have hlast := (hwalk.commands_mem hok).2
  rw [List.getLast?_concat, Option.map_some, Option.some.injEq] at hlast
  refine ⟨xs, x, hwalk.exchanges, hwalk.exchanges.posted, ?_, hlast,
    Exchange.exists_of_poll hlast hx⟩
  intro y hy
  obtain ⟨stage, hreq⟩ := hwalk.exists_stage hy
  obtain ⟨q, hq⟩ := hok y hy
  exact Exchange.accepted_of_ok hreq hq

/-! ## A refused poll -/

/-- The reply of a server that does not execute a poll. -/
def refusedPoll : Reply where
  status := 200
  adminProtocol := some adminProtocol
  body := Utf8.encodeText ("\x7b\"header\":\x7b\"functionExecutionStatus\":" ++
    "\x7b\"status\":\"Failed\",\"statusCodeData\":\x7b\"message\":\"overloaded\"\x7d\x7d\x7d\x7d")

def refusedPollResponse : ProfileStatusResponse where
  header := {
    executionStatus := { status := "Failed", statusCodeData := { message := "overloaded" } } }

theorem decode_refusedPoll :
    Json.decode Response.decoder refusedPoll.body = .ok refusedPollResponse := by
  decide +kernel

theorem Client.ample_activate :
    ∃ u, runOn ((ample false).activate "1") (.start [.ok refusedPoll, .ok refusedPoll]) =
      (.ok none, u) := by
  have hresult : (runOn ((ample false).activate "1")
      (.start [.ok refusedPoll, .ok refusedPoll])).1.toOption = some none := by decide +kernel
  refine ⟨_, Prod.ext ?_ rfl⟩
  cases hr : (runOn ((ample false).activate "1") (.start [.ok refusedPoll, .ok refusedPoll])).1 with
  | error e =>
    rw [hr] at hresult
    cases hresult
  | ok p =>
    rw [hr] at hresult
    exact congrArg _ (Option.some.inj hresult)

/-- Two refused polls pass for the news that there is no such profile. -/
theorem Client.ample_accepts :
    ∃ u, runOn ((ample false).activate "1") (.start [.ok refusedPoll, .ok refusedPoll]) =
        (.ok none, u) ∧
      ∃ xs x, Exchanges (ample false) (xs ++ [x]) (.start [.ok refusedPoll, .ok refusedPoll]) u ∧
        (∀ y ∈ xs ++ [x], y.Accepted "1") ∧
        ∃ a : ProfileStatusResponse, x.Brings a ∧ a.profiles = [] := by
  obtain ⟨u, hu⟩ := ample_activate
  obtain ⟨xs, x, hxs, -, haccepted, -, hlast⟩ := activate_accepts hu
  exact ⟨u, hu, xs, x, hxs, haccepted, hlast⟩

/-- An activation may end well though the server executed none of its polls. -/
theorem Client.not_activate_executed :
    ¬ ∀ p u xs, runOn ((ample false).activate "1") (.start [.ok refusedPoll, .ok refusedPoll]) =
        (.ok p, u) →
      Exchanges (ample false) xs (.start [.ok refusedPoll, .ok refusedPoll]) u →
      u.posted = xs.flatMap (·.posts) → ∀ x ∈ xs, x.Executed := by
  intro hall
  obtain ⟨u, hu⟩ := ample_activate
  obtain ⟨xs, x, t, hwalk, hrun⟩ :=
    (ample false).resume_walks "1" .check (.start [.ok refusedPoll, .ok refusedPoll])
  obtain ⟨-, rfl⟩ := Prod.mk.inj (hrun.symm.trans hu)
  obtain ⟨y, ys, hys⟩ := hwalk.exists_cons
  have hexecuted : y.Executed :=
    hall none t _ hu hwalk.exchanges hwalk.exchanges.posted y
      (by rw [hys]; exact List.mem_cons_self)
  rw [hys] at hwalk
  obtain ⟨v, hreq, hhappens, -⟩ := hwalk.cons_cases
  have hreply : y.reply = .ok refusedPoll := by
    cases hhappens with
    | undrawn hdraw => cases hdraw
    | posted hdraw _ _ hpost => exact (congrArg (·.1.1) hpost).symm
  unfold Exchange.Executed at hexecuted
  rw [hreq] at hexecuted
  obtain ⟨a, ⟨reply, hr, hread⟩, hsuccess⟩ := hexecuted
  cases hreply.symm.trans hr
  cases decode_refusedPoll.symm.trans hread
  exact absurd hsuccess (by decide)

end Provisioning.Es2
