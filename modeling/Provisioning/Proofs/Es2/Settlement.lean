import Provisioning.Proofs.Es2.Server
/-!
# Activations at a server with one profile

Each exchange of an activation is one move of the server's record, or fails.

* `Stage.Fits` : the records that the command of a stage is for;
* `Move` : what a stage does with a record that it fits, and the snapshot that it brings;
* `Move.next_cases` : the stage behind a move fits the record behind it, and ends as it does;
* `Course` : an activation from a stage on, move by move; on a line, each is one
  (`Smdp.Line.course`);
* `Ends` : what becomes of the record when nothing fails (`Course.ends`);
* `Client.activate_settled` : orders are posted for records that they are for; when nothing fails, a
  profile that needs it is released, any other is left alone, and a second activation only looks.
-/

namespace Provisioning.Es2

variable {σ α : Type}

/-! ## Stages and records -/

/-- The records that the command of a stage is for. -/
def Stage.Fits : Stage → Option Record → Prop
  | .order, q => ∃ r, q = some r ∧ r.state = "AVAILABLE"
  | .confirm, q => ∃ r, q = some r ∧ r.state = "ALLOCATED"
  | .check, _ | .recheck, _ | .close, _ => True

/-- Whether an order is confirmed in this stage or behind it. -/
def Stage.Confirms : Stage → Option Record → Prop
  | .check, q => ∃ r, q = some r ∧ r.NeedsOrder
  | .recheck, q => ∃ r, q = some r ∧ r.state = "ALLOCATED"
  | .order, _ | .confirm, _ => True
  | .close, _ => False

/-- What a stage does with a record that it fits, and the snapshot that it brings. -/
inductive Move (token : String) :
    Stage → Option Record → Option Record → Option ProfileStatus → Prop
  | poll {stage : Stage} {q : Option Record} (hcommand : stage.command = .getProfileStatus) :
      Move token stage q q (q.map Record.snapshot)
  | order {r : Record} (hstate : r.state = "AVAILABLE") :
      Move token .order (some r) (some (r.allocated token)) none
  | confirm {r : Record} {code : String} (hstate : r.state = "ALLOCATED") (hcode : code ≠ "") :
      Move token .confirm (some r) (some (r.released code)) none

/-- The profile is released if an order for it is confirmed, and left alone otherwise. -/
structure Ends (stage : Stage) (q q' : Option Record) : Prop where
  released : stage.Confirms q → ∃ r code, q = some r ∧ code ≠ "" ∧ q' = some (r.released code)
  unchanged : ¬ stage.Confirms q → q' = q

/-! ## Snapshots of records -/

theorem exists_snapshot_iff (q : Option Record) (P : ProfileStatus → Prop) :
    (∃ p, q.map Record.snapshot = some p ∧ P p) ↔ ∃ r, q = some r ∧ P r.snapshot := by
  cases q with
  | none => simp
  | some r => simp

theorem of_snapshot_needsDownload_iff (q : Option Record) :
    ActivationStep.of (q.map Record.snapshot) = .needsDownload ↔
      ∃ r, q = some r ∧ r.state = "AVAILABLE" ∧ r.acToken = "" := by
  rw [ActivationStep.of_eq_needsDownload_iff,
    exists_snapshot_iff q fun p => p.state = .available ∧ p.acToken = ""]
  simp only [Record.snapshot_available_iff]
  rfl

theorem of_snapshot_needsConfirm_iff (q : Option Record) :
    ActivationStep.of (q.map Record.snapshot) = .needsConfirm ↔
      ∃ r, q = some r ∧ r.state = "ALLOCATED" ∧ r.acToken = "" := by
  rw [ActivationStep.of_eq_needsConfirm_iff,
    exists_snapshot_iff q fun p => p.state = .allocated ∧ p.acToken = ""]
  simp only [Record.snapshot_allocated_iff]
  rfl

theorem isAllocated_snapshot_iff (q : Option Record) :
    isAllocated (q.map Record.snapshot) = true ↔ ∃ r, q = some r ∧ r.state = "ALLOCATED" := by
  rw [isAllocated_iff, exists_snapshot_iff q fun p => p.state = .allocated]
  simp only [Record.snapshot_allocated_iff]

/-- The stage behind a first look fits, and confirms an order if the profile needs one. -/
theorem ofStep_snapshot (q : Option Record) :
    (Stage.ofStep (.of (q.map Record.snapshot))).Fits q ∧
      ((Stage.ofStep (.of (q.map Record.snapshot))).Confirms q ↔ Stage.check.Confirms q) := by
  have hdownload := of_snapshot_needsDownload_iff q
  have hconfirm := of_snapshot_needsConfirm_iff q
  cases hstep : ActivationStep.of (q.map Record.snapshot) with
  | needsDownload =>
    obtain ⟨r, hr, hstate, htoken⟩ := hdownload.mp hstep
    exact ⟨⟨r, hr, hstate⟩, iff_of_true trivial ⟨r, hr, htoken, .inl hstate⟩⟩
  | needsConfirm =>
    obtain ⟨r, hr, hstate, htoken⟩ := hconfirm.mp hstep
    exact ⟨⟨r, hr, hstate⟩, iff_of_true trivial ⟨r, hr, htoken, .inr hstate⟩⟩
  | provisioned | unknown =>
    refine ⟨trivial, iff_of_false not_false ?_⟩
    rintro ⟨r, hr, htoken, hstate | hstate⟩
    · cases hstep.symm.trans (hdownload.mpr ⟨r, hr, hstate, htoken⟩)
    · cases hstep.symm.trans (hconfirm.mpr ⟨r, hr, hstate, htoken⟩)

/-! ## Moves -/

namespace Move

variable {token : String} {stage next : Stage} {q m q' : Option Record} {p : Option ProfileStatus}

theorem fits (h : Move token stage q q' p) : stage.Fits q := by
  cases h with
  | poll hcommand => cases stage <;> trivial
  | order hstate => exact ⟨_, rfl, hstate⟩
  | confirm hstate _ => exact ⟨_, rfl, hstate⟩

theorem of_poll (h : Move token stage q q' p) (hcommand : stage.command = .getProfileStatus) :
    q' = q ∧ p = q.map Record.snapshot := by
  cases h with
  | poll _ => exact ⟨rfl, rfl⟩
  | order _ | confirm _ _ => cases hcommand

theorem of_order {r : Record} (h : Move token .order q q' p) (hr : q = some r) :
    q' = some (r.allocated token) := by
  cases h with
  | poll hcommand => cases hcommand
  | order _ =>
    cases hr
    rfl

/-- What a poll, an order or a confirmation makes of the record is for the next stage, which ends
as this one does. -/
theorem next_cases (h : Move token stage q m p) (hnext : stage.next? p = some next) :
    next.Fits m ∧ ∀ q', Ends next m q' → Ends stage q q' := by
  cases h with
  | @poll stage q hcommand =>
    cases stage with
    | check =>
      cases hnext
      obtain ⟨hfits, hiff⟩ := ofStep_snapshot q
      refine ⟨hfits, fun q' hends => ⟨fun h => hends.released (hiff.mpr h), fun h => ?_⟩⟩
      exact hends.unchanged fun h' => h (hiff.mp h')
    | recheck =>
      cases hnext
      have hiff := isAllocated_snapshot_iff q
      by_cases halloc : isAllocated (q.map Record.snapshot) = true
      · rw [if_pos halloc]
        have hconfirms : Stage.recheck.Confirms q := hiff.mp halloc
        refine ⟨hconfirms, fun q' hends => ⟨fun _ => ?_, fun h => absurd hconfirms h⟩⟩
        exact hends.released trivial
      · rw [if_neg halloc]
        have hnot : ¬ Stage.recheck.Confirms q := fun h => halloc (hiff.mpr h)
        refine ⟨trivial, fun q' hends => ⟨fun h => absurd h hnot, fun _ => ?_⟩⟩
        exact hends.unchanged not_false
    | order | confirm => cases hcommand
    | close => cases hnext
  | @order r hstate =>
    cases hnext
    refine ⟨trivial, fun q' hends => ⟨fun _ => ?_, fun h => absurd trivial h⟩⟩
    obtain ⟨_, code, hr, hcode, hq'⟩ := hends.released ⟨_, rfl, rfl⟩
    cases hr
    exact ⟨r, code, rfl, hcode, hq'⟩
  | @confirm r code hstate hcode =>
    cases hnext
    refine ⟨trivial, fun q' hends => ⟨fun _ => ?_, fun h => absurd trivial h⟩⟩
    exact ⟨r, code, rfl, hcode, hends.unchanged not_false⟩

theorem eq_close (h : Move token .check q m p) (hnext : Stage.check.next? p = some next)
    (hnot : ¬ Stage.check.Confirms q) : next = .close := by
  cases h with
  | poll _ =>
    cases hnext
    have hiff := (ofStep_snapshot q).2
    cases hstep : ActivationStep.of (q.map Record.snapshot) with
    | needsDownload | needsConfirm =>
      rw [hstep] at hiff
      exact absurd (hiff.mp trivial) hnot
    | provisioned | unknown => rfl

theorem last (h : Move token stage q q' p) (hlast : stage.next? p = none) :
    Ends stage q q' ∧ p = q'.map Record.snapshot := by
  obtain rfl := Stage.eq_close_of_next? hlast
  cases h with
  | poll _ => exact ⟨⟨fun h => absurd h not_false, fun _ => rfl⟩, rfl⟩

end Move

/-! ## Exchanges with the server -/

namespace Exchange

variable {x : Exchange} {iccid : String}

theorem settle_of_tells [Response α] (command : Command) {p : α → Prop}
    {reply : Except Error Reply} (h : Tells p reply) :
    ∃ a, settle command reply = .ok a ∧ executed command a = .ok a ∧ p a := by
  obtain ⟨reply, a, rfl, hread, hsuccess, hp⟩ := h
  refine ⟨a, ?_, if_pos hsuccess, hp⟩
  show (Json.decode Response.decoder reply.body).mapError _ = .ok a
  rw [hread]
  rfl

theorem settle_executed_of_tells [Response α] (command : Command) {p : α → Prop}
    {reply : Except Error Reply} (h : Tells p reply) :
    ((settle command reply : Except Error α).bind (executed command)).map
      (fun _ => (none : Option ProfileStatus)) = .ok none := by
  obtain ⟨a, hread, hexecuted, -⟩ := settle_of_tells command h
  rw [hread]
  show (executed command a).map _ = _
  rw [hexecuted]
  rfl

theorem result_poll {o : Option ProfileStatus} (hreq : x.request = .getProfileStatus iccid)
    (h : Tells (fun response : ProfileStatusResponse => response.profiles = o.toList) x.reply) :
    x.result = .ok o := by
  obtain ⟨response, hread, -, hprofiles⟩ := settle_of_tells .getProfileStatus h
  unfold result
  rw [hreq]
  dsimp only
  rw [hread]
  dsimp only [Except.bind]
  rw [hprofiles]
  cases o <;> rfl

theorem result_order (hreq : x.request = .downloadOrder iccid)
    (h : Tells (fun _ : DownloadOrderResponse => True) x.reply) : x.result = .ok none := by
  unfold result
  rw [hreq]
  exact settle_executed_of_tells .downloadOrder h

theorem result_confirm (hreq : x.request = .confirmOrder iccid)
    (h : Tells (fun _ : ConfirmOrderResponse => True) x.reply) : x.result = .ok none := by
  unfold result
  rw [hreq]
  exact settle_executed_of_tells .confirmOrder h

theorem result_refused {reply : Reply} {response : ConfirmOrderResponse}
    (hreq : x.request = .confirmOrder iccid) (hreply : x.reply = .ok reply)
    (hread : Json.decode Response.decoder reply.body = .ok response)
    (hfail : isSuccess response = false) : ∃ e, x.result = .error e := by
  unfold result
  rw [hreq, hreply]
  dsimp only [settle]
  rw [hread]
  dsimp only [Except.mapError, Except.bind, executed]
  rw [hfail]
  exact ⟨_, rfl⟩

end Exchange

namespace Smdp

variable {t : Transport σ} {stage : Stage} {iccid : String} {x : Exchange}

/-- The reply of the server in a stage that fits its record is a move. -/
theorem move_of_reply (S : Smdp t iccid) (h : RequestHeader) {s : σ}
    (hreq : x.request = stage.request iccid)
    (hreply : x.reply = (t.send (stage.request iccid) h s).1) (hfits : stage.Fits (S.record s)) :
    ∃ p, x.result = .ok p ∧
      Move S.token stage (S.record s) (S.record (t.send (stage.request iccid) h s).2) p := by
  cases stage with
  | check | recheck | close =>
    obtain ⟨htells, hrecord⟩ := S.polled h s
    dsimp only [Stage.request] at hreply ⊢
    rw [← hreply] at htells
    rw [hrecord]
    exact ⟨_, Exchange.result_poll hreq htells, .poll rfl⟩
  | order =>
    obtain ⟨r, hr, hstate⟩ := hfits
    obtain ⟨htells, hrecord⟩ := S.ordered h hr hstate
    dsimp only [Stage.request] at hreply ⊢
    rw [← hreply] at htells
    rw [hrecord, hr]
    exact ⟨_, Exchange.result_order hreq htells, .order hstate⟩
  | confirm =>
    obtain ⟨r, hr, hstate⟩ := hfits
    obtain ⟨htells, code, hcode, hrecord⟩ := S.confirmed h hr hstate
    dsimp only [Stage.request] at hreply ⊢
    rw [← hreply] at htells
    rw [hrecord, hr]
    exact ⟨_, Exchange.result_confirm hreq htells, .confirm hstate hcode⟩

theorem move_of_send (S : Smdp t iccid) {h : RequestHeader} {s s' : σ}
    (hreq : x.request = stage.request iccid)
    (hsend : t.send (stage.request iccid) h s = (x.reply, s')) (hfits : stage.Fits (S.record s)) :
    ∃ p, x.result = .ok p ∧ Move S.token stage (S.record s) (S.record s') p := by
  have hmove := S.move_of_reply h hreq (by rw [hsend]) hfits
  rw [hsend] at hmove
  exact hmove

/-- What comes of a request in a stage that fits the record: a move, or a failure; then the record
may have moved all the same. -/
theorem Passes.move_cases {S : Smdp t iccid} {h : RequestHeader} {s : σ}
    {out : Except Error Reply × σ} (hpasses : S.Passes (stage.request iccid) h s out)
    (hreq : x.request = stage.request iccid) (hreply : x.reply = out.1)
    (hfits : stage.Fits (S.record s)) :
    (∃ p, x.result = .ok p ∧ Move S.token stage (S.record s) (S.record out.2) p) ∨
      (∃ e, x.result = .error e) ∧ (S.record out.2 = S.record s ∨
        ∃ p, Move S.token stage (S.record s) (S.record out.2) p) := by
  cases hpasses with
  | served hrecord =>
    rw [hrecord]
    exact .inl (S.move_of_reply h hreq hreply hfits)
  | lostRequest hrecord => exact .inr ⟨⟨_, Exchange.result_of_error hreply⟩, .inl hrecord⟩
  | lostReply hrecord =>
    obtain ⟨p, -, hmove⟩ := S.move_of_reply (x := ⟨stage.request iccid, [], _⟩) h rfl rfl hfits
    rw [hrecord]
    exact .inr ⟨⟨_, Exchange.result_of_error hreply⟩, .inr ⟨p, hmove⟩⟩
  | refused hcommand hread hfail hrecord =>
    cases stage with
    | confirm => exact .inr ⟨Exchange.result_refused hreq hreply hread hfail, .inl hrecord⟩
    | check | order | recheck | close => cases hcommand

theorem send_of_happens {c : Client σ} {s u : Session σ} (hx : x.Happens c s u) :
    (∃ callId, c.callIds s.draws = .ok callId ∧
      c.transport.send x.request ⟨c.requesterId, callId⟩ s.remote = (x.reply, u.remote)) ∨
    (¬ c.CanDraw s.draws ∧ (∃ e, x.result = .error e) ∧ u.remote = s.remote) := by
  cases hx with
  | undrawn hnone hdraws hposted hremote =>
    refine .inr ⟨?_, ⟨_, Exchange.result_of_error rfl⟩, hremote⟩
    rintro ⟨callId, hcallId⟩
    cases hnone.symm.trans hcallId
  | @posted request _ _ callId reply es hcall hdraws hposted hpost =>
    refine .inl ⟨callId, hcall, ?_⟩
    show ((c.transport.post request.command (c.bodyOf request callId) s.remote).1.1,
      (c.transport.post request.command (c.bodyOf request callId) s.remote).2) = _
    rw [hpost]

theorem exchange_ok {c : Client σ} (S : Smdp c.transport iccid) {s u : Session σ}
    (hreq : x.request = stage.request iccid) (hx : x.Happens c s u) (hdraw : c.CanDraw s.draws)
    (hfits : stage.Fits (S.record s.remote)) :
    ∃ p, x.result = .ok p ∧ Move S.token stage (S.record s.remote) (S.record u.remote) p := by
  rcases send_of_happens hx with ⟨callId, -, hsend⟩ | ⟨hnot, -⟩
  · rw [hreq] at hsend
    exact S.move_of_send hreq hsend hfits
  · exact absurd hdraw hnot

/-- On a line, an exchange is a move, or fails. -/
theorem Line.exchange_cases {S : Smdp t iccid} {c : Client σ} (hline : S.Line c.transport)
    {s u : Session σ} (hreq : x.request = stage.request iccid) (hx : x.Happens c s u)
    (hfits : stage.Fits (S.record s.remote)) :
    (∃ p, x.result = .ok p ∧ Move S.token stage (S.record s.remote) (S.record u.remote) p) ∨
      (∃ e, x.result = .error e) ∧ (S.record u.remote = S.record s.remote ∨
        ∃ p, Move S.token stage (S.record s.remote) (S.record u.remote) p) := by
  rcases send_of_happens hx with ⟨callId, -, hsend⟩ | ⟨-, herror, hremote⟩
  · have hpasses := hline x.request ⟨c.requesterId, callId⟩ s.remote
    rw [hsend, hreq] at hpasses
    exact hpasses.move_cases hreq rfl hfits
  · exact .inr ⟨herror, .inl (congrArg S.record hremote)⟩

end Smdp

/-! ## Activations from a stage on -/

/-- An activation from a stage on: move by move, up to the first failure or to the end. -/
inductive Course {t : Transport σ} {iccid : String} (S : Smdp t iccid) (c : Client σ) :
    Stage → Session σ → Except Error (Option ProfileStatus) → Session σ → Prop
  | failed {stage : Stage} {x : Exchange} {s u : Session σ} {e : Error}
      (hreq : x.request = stage.request iccid) (hx : x.Happens c s u)
      (hresult : x.result = .error e) (hfits : stage.Fits (S.record s.remote))
      (hrecord : S.record u.remote = S.record s.remote ∨
        ∃ p, Move S.token stage (S.record s.remote) (S.record u.remote) p) :
      Course S c stage s (.error e) u
  | last {stage : Stage} {x : Exchange} {s u : Session σ} {p : Option ProfileStatus}
      (hreq : x.request = stage.request iccid) (hx : x.Happens c s u) (hresult : x.result = .ok p)
      (hmove : Move S.token stage (S.record s.remote) (S.record u.remote) p)
      (hlast : stage.next? p = none) : Course S c stage s (.ok p) u
  | step {stage next : Stage} {x : Exchange} {s u v : Session σ} {p : Option ProfileStatus}
      {result : Except Error (Option ProfileStatus)}
      (hreq : x.request = stage.request iccid) (hx : x.Happens c s u) (hresult : x.result = .ok p)
      (hmove : Move S.token stage (S.record s.remote) (S.record u.remote) p)
      (hnext : stage.next? p = some next) (hrest : Course S c next u result v) :
      Course S c stage s result v

/-- On a line, an activation goes on from a stage that fits as a course. -/
theorem Smdp.Line.course {t : Transport σ} {iccid : String} {S : Smdp t iccid} {c : Client σ}
    (hline : S.Line c.transport) (stage : Stage) (s : Session σ)
    (hfits : stage.Fits (S.record s.remote)) :
    Course S c stage s (runOn (c.resume iccid stage) s).1
      (runOn (c.resume iccid stage) s).2 := by
  obtain ⟨x, u, hreq, hx, hrun⟩ := c.resume_step iccid stage s
  rcases hline.exchange_cases hreq hx hfits with ⟨p, hp, hmove⟩ | ⟨⟨e, he⟩, hrecord⟩
  · cases hnext : stage.next? p with
    | none =>
      simp only [hp, Stage.after, hnext] at hrun
      rw [hrun]
      exact .last hreq hx hp hmove hnext
    | some next =>
      have hafter : stage.after x.result = some next := by rw [hp, Stage.after, hnext]
      -- by recursion on the exchanges that are left; the move makes the next stage fit
      have hleft : next.left < stage.left := Stage.left_lt_of_after hafter
      simp only [hafter] at hrun
      rw [hrun]
      exact .step hreq hx hp hmove hnext (hline.course next u (hmove.next_cases hnext).1)
  · simp only [he, Stage.after] at hrun
    rw [hrun]
    exact .failed hreq hx he hfits hrecord
termination_by stage.left

/-- An order is posted for an available profile, a confirmation for an allocated one. -/
structure Smdp.Apt {t : Transport σ} {iccid : String} (S : Smdp t iccid) (x : Exchange) (s : σ) :
    Prop where
  order : .downloadOrder ∈ x.posts.map (·.1) → ∃ r, S.record s = some r ∧ r.state = "AVAILABLE"
  confirm : .confirmOrder ∈ x.posts.map (·.1) → ∃ r, S.record s = some r ∧ r.state = "ALLOCATED"

/-- Exchanges one behind the other, in which each order is posted for a profile that it is for. -/
inductive Smdp.AptRun {t : Transport σ} {iccid : String} (S : Smdp t iccid) (c : Client σ) :
    List Exchange → Session σ → Session σ → Prop
  | nil {s : Session σ} : AptRun S c [] s s
  | cons {x : Exchange} {xs : List Exchange} {s u v : Session σ} (hx : x.Happens c s u)
      (hapt : S.Apt x s.remote) (hxs : AptRun S c xs u v) : AptRun S c (x :: xs) s v

namespace Smdp

variable {t : Transport σ} {iccid : String} {S : Smdp t iccid} {c : Client σ} {stage : Stage}
  {x : Exchange} {xs : List Exchange} {s u : Session σ}

theorem apt_of_fits (hreq : x.request = stage.request iccid) (hx : x.Happens c s u)
    (hfits : stage.Fits (S.record s.remote)) : S.Apt x s.remote := by
  have hcommand : ∀ command ∈ x.posts.map (·.1), stage.command = command := by
    intro command hmem
    rcases hx.commands_cases with ⟨-, hposts⟩ | ⟨-, hposts, -⟩
    · rw [hposts, hreq, Stage.command_request] at hmem
      exact (List.mem_singleton.mp hmem).symm
    · rw [hposts] at hmem
      cases hmem
  constructor
  · intro hmem
    have heq := hcommand _ hmem
    cases stage <;> first | exact hfits | cases heq
  · intro hmem
    have heq := hcommand _ hmem
    cases stage <;> first | exact hfits | cases heq

theorem AptRun.exchanges (h : S.AptRun c xs s u) : Exchanges c xs s u := by
  induction h with
  | nil => exact .nil
  | cons hx _ _ ih => exact .cons hx ih

end Smdp

namespace Course

variable {t : Transport σ} {iccid : String} {S : Smdp t iccid} {c : Client σ} {stage : Stage}
  {s u : Session σ} {result : Except Error (Option ProfileStatus)}

theorem aptRun (h : Course S c stage s result u) : ∃ xs, S.AptRun c xs s u := by
  induction h with
  | failed hreq hx _ hfits _ => exact ⟨_, .cons hx (S.apt_of_fits hreq hx hfits) .nil⟩
  | last hreq hx _ hmove _ => exact ⟨_, .cons hx (S.apt_of_fits hreq hx hmove.fits) .nil⟩
  | step hreq hx _ hmove _ _ ih =>
    obtain ⟨xs, hxs⟩ := ih
    exact ⟨_, .cons hx (S.apt_of_fits hreq hx hmove.fits) hxs⟩

/-- What every move keeps is kept by an activation, also by one that fails. -/
theorem invariant {P : Option Record → Prop}
    (hP : ∀ {stage q q' p}, Move S.token stage q q' p → P q → P q')
    (h : Course S c stage s result u) (hs : P (S.record s.remote)) :
    P (S.record u.remote) := by
  induction h with
  | failed _ _ _ _ hrecord =>
    rcases hrecord with hsame | ⟨p, hmove⟩
    · rw [hsame]
      exact hs
    · exact hP hmove hs
  | last _ _ _ hmove _ => exact hP hmove hs
  | step _ _ _ hmove _ _ ih => exact ih (hP hmove hs)

theorem ends (h : Course S c stage s result u) {p : Option ProfileStatus}
    (hok : result = .ok p) : Ends stage (S.record s.remote) (S.record u.remote) ∧
      p = (S.record u.remote).map Record.snapshot := by
  induction h with
  | failed _ _ _ _ _ => cases hok
  | last _ _ _ hmove hlast =>
    cases hok
    exact hmove.last hlast
  | step _ _ _ hmove hnext _ ih =>
    obtain ⟨hends, hp⟩ := ih hok
    exact ⟨(hmove.next_cases hnext).2 _ hends, hp⟩

theorem draws_le (h : Course S c stage s result u) : s.draws ≤ u.draws := by
  induction h with
  | failed _ hx _ _ _ | last _ hx _ _ _ =>
    rw [hx.draws]
    exact Nat.le_succ _
  | step _ hx _ _ _ _ ih =>
    rw [hx.draws] at ih
    exact Nat.le_of_succ_le ih

/-- With the server itself and with identifiers, nothing fails. -/
theorem ok {S : Smdp c.transport iccid} (h : Course S c stage s result u)
    (hdraw : ∀ n, s.draws ≤ n → c.CanDraw n) : ∃ p, result = .ok p := by
  induction h with
  | failed hreq hx hresult hfits _ =>
    obtain ⟨p, hp, -⟩ := S.exchange_ok hreq hx (hdraw _ (Nat.le_refl _)) hfits
    cases hp.symm.trans hresult
  | last _ _ _ _ _ => exact ⟨_, rfl⟩
  | step _ hx _ _ _ _ ih =>
    refine ih fun n hn => hdraw n ?_
    rw [hx.draws] at hn
    omega

theorem posted_of_ok {x : Exchange} {p : Option ProfileStatus}
    (hreq : x.request = stage.request iccid) (hx : x.Happens c s u) (hresult : x.result = .ok p) :
    u.posted.map (·.1) = s.posted.map (·.1) ++ [stage.command] := by
  rw [hx.posted_eq, List.map_append]
  rcases hx.commands_cases with ⟨-, hposts⟩ | ⟨-, -, why, hwhy⟩
  · rw [hposts, hreq, Stage.command_request]
  · cases hresult.symm.trans hwhy

/-- A profile that needs no order is looked at twice. -/
theorem polls (h : Course S c .check s result u) {p : Option ProfileStatus}
    (hok : result = .ok p) (hnot : ¬ Stage.check.Confirms (S.record s.remote)) :
    u.posted.map (·.1) = s.posted.map (·.1) ++ [.getProfileStatus, .getProfileStatus] := by
  cases h with
  | failed _ _ _ _ _ => cases hok
  | last _ _ _ _ hlast => cases hlast
  | step hreq hx hresult hmove hnext hrest =>
    have hfirst := posted_of_ok hreq hx hresult
    obtain rfl := hmove.eq_close hnext hnot
    cases hrest with
    | failed _ _ _ _ _ => cases hok
    | last hreq' hx' hresult' _ _ =>
      rw [posted_of_ok hreq' hx' hresult', hfirst, List.append_assoc]
      rfl
    | step _ _ _ _ hnext' _ => cases hnext'

end Course

/-! ## What an activation comes to -/

/-- What an activation without failures comes to, and a second one behind it. -/
structure Smdp.Settled {t : Transport σ} {iccid : String} (S : Smdp t iccid) (c : Client σ)
    (s u : Session σ) (result : Except Error (Option ProfileStatus)) : Prop where
  snapshot : result = .ok ((S.record u.remote).map Record.snapshot)
  released : ∀ r, S.record s.remote = some r → r.NeedsOrder →
    ∃ code, code ≠ "" ∧ S.record u.remote = some (r.released code)
  unchanged : (∀ r, S.record s.remote = some r → ¬ r.NeedsOrder) →
    S.record u.remote = S.record s.remote
  again : (runOn (c.activate iccid) u).1 = result
  again_record : S.record (runOn (c.activate iccid) u).2.remote = S.record u.remote
  again_polls : (runOn (c.activate iccid) u).2.posted.map (·.1) =
    u.posted.map (·.1) ++ [.getProfileStatus, .getProfileStatus]

theorem Stage.not_confirms_of_token {r : Record} (htoken : r.acToken ≠ "") :
    ¬ Stage.check.Confirms (some r) := by
  rintro ⟨_, hr, hneeds⟩
  cases hr
  exact htoken hneeds.1

namespace Ends

variable {q q' : Option Record}

theorem released_of_needsOrder {r : Record} (h : Ends .check q q') (hr : q = some r)
    (hneeds : r.NeedsOrder) : ∃ code, code ≠ "" ∧ q' = some (r.released code) := by
  obtain ⟨_, code, hr', hcode, hq'⟩ := h.released ⟨r, hr, hneeds⟩
  cases hr.symm.trans hr'
  exact ⟨code, hcode, hq'⟩

theorem not_confirms (h : Ends .check q q') : ¬ Stage.check.Confirms q' := by
  by_cases hq : Stage.check.Confirms q
  · obtain ⟨r, code, -, hcode, rfl⟩ := h.released hq
    exact Stage.not_confirms_of_token hcode
  · rw [h.unchanged hq]
    exact hq

end Ends

theorem Smdp.Line.activate_course {t : Transport σ} {iccid : String} {S : Smdp t iccid}
    {c : Client σ} (hline : S.Line c.transport) (s : Session σ) :
    Course S c .check s (runOn (c.activate iccid) s).1 (runOn (c.activate iccid) s).2 :=
  hline.course .check s trivial

theorem Course.settled {c : Client σ} {iccid : String} {S : Smdp c.transport iccid}
    {s u : Session σ} {result : Except Error (Option ProfileStatus)}
    (h : Course S c .check s result u) (hdraw : ∀ n, s.draws ≤ n → c.CanDraw n) :
    S.Settled c s u result := by
  obtain ⟨p, hp⟩ := h.ok hdraw
  obtain ⟨hends, hsnapshot⟩ := h.ends hp
  have hnot := hends.not_confirms
  have hsecond := S.line_self.activate_course u
  obtain ⟨q, hq⟩ := hsecond.ok fun n hn => hdraw n (Nat.le_trans h.draws_le hn)
  obtain ⟨hagain, hsnapshot'⟩ := hsecond.ends hq
  have hsame := hagain.unchanged hnot
  exact {
    snapshot := by rw [hp, hsnapshot]
    released := fun r hr hneeds => hends.released_of_needsOrder hr hneeds
    unchanged := fun hall => hends.unchanged fun ⟨r, hr, hneeds⟩ => hall r hr hneeds
    again := by rw [hq, hp, hsnapshot', hsame, hsnapshot]
    again_record := hsame
    again_polls := hsecond.polls hq hnot }

/-! ## A sample -/

/-- A client of a compact server that leaves a token when it allocates a profile. -/
def Client.sample (token : String) : Client (Option Record) where
  transport := compactTransport token "LPA:1$smdp.example$0123-ABCD"
  callIds _ := .ok "1"
  requesterId := "requester"
  logPayloads := false

def Record.sample : Record where
  state := "AVAILABLE"
  acToken := ""
  lastUpdate := ""
  eid := ""
  iccid := "8901000000000000001"
  lockFlag := false

/-! ## Activations -/

/-- At a server with one profile, an order is only posted for an available profile, and a
confirmation for an allocated one. With enough identifiers, nothing fails: an available or allocated
profile without an activation code is released, any other is left alone, the result is the snapshot
of the record, and a second activation polls twice and ends with the same. -/
theorem Client.activate_settled (c : Client σ) (iccid : String) (S : Smdp c.transport iccid)
    (s : Session σ) :
    ∃ result u xs, runOn (c.activate iccid) s = (result, u) ∧ S.AptRun c xs s u ∧
      u.posted = s.posted ++ xs.flatMap (·.posts) ∧
      ((∀ n, s.draws ≤ n → c.CanDraw n) → S.Settled c s u result) := by
  have hcourse := S.line_self.activate_course s
  obtain ⟨xs, hxs⟩ := hcourse.aptRun
  exact ⟨_, _, xs, rfl, hxs, hxs.exchanges.posted, hcourse.settled⟩

theorem Client.sample_settled :
    ∃ result u, runOn ((sample "").activate "8901000000000000001") (.start (some .sample)) =
        (result, u) ∧ (∃ code, code ≠ "" ∧ u.remote = some (Record.sample.released code)) ∧
      (runOn ((sample "").activate "8901000000000000001") u).1 = result := by
  obtain ⟨result, u, xs, hrun, -, -, hsettled⟩ := (sample "").activate_settled
    "8901000000000000001" (.compact "" _ _ (by decide)) (.start (some .sample))
  have h := hsettled fun n _ => ⟨"1", rfl⟩
  exact ⟨result, u, hrun, h.released .sample rfl ⟨rfl, .inl rfl⟩, h.again⟩

end Provisioning.Es2
