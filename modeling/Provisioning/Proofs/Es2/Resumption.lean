import Provisioning.Proofs.Es2.Settlement
/-!
# Activations that are taken up again

An activation over a line that loses requests and replies can stop anywhere. Another one takes the
profile up where it was left.

* `Phase` : how far a profile has come that was there for an order; no move leaves the phases;
* `Smdp.Attempts` : activations one behind the other, each over a line of its own;
* `Smdp.interrupts` : a line that loses the polls of an allocated profile interrupts an activation
  right behind the order;
* `Smdp.resumes` : an activation behind attempts that does not fail releases the profile, unless the
  order has left an activation code on an allocated profile; then it leaves the profile as it is;
* `Smdp.not_resumes` : such a profile is not released.
-/

namespace Provisioning.Es2

variable {σ : Type}

/-- How far a profile has come: not ordered, ordered, or confirmed. -/
inductive Phase (token : String) (r : Record) : Option Record → Prop
  | start : Phase token r (some r)
  | allocated : Phase token r (some (r.allocated token))
  | released {code : String} (hcode : code ≠ "") : Phase token r (some (r.released code))

theorem Phase.move {token : String} {r : Record} {stage : Stage} {q q' : Option Record}
    {p : Option ProfileStatus} (hstate : r.state = "AVAILABLE") (hmove : Move token stage q q' p)
    (h : Phase token r q) : Phase token r q' := by
  cases hmove with
  | poll _ => exact h
  | order hq =>
    cases h with
    | start => exact .allocated
    | allocated => exact absurd hq (by simp)
    | released _ => exact absurd hq (by simp)
  | confirm hq hcode =>
    cases h with
    | start => exact absurd (hstate.symm.trans hq) (by decide)
    | allocated => exact .released hcode
    | released _ => exact absurd hq (by simp)

namespace Smdp

variable {t : Transport σ} {iccid : String}

/-- Activations of a profile one behind the other: any client, any line to the server. -/
inductive Attempts (S : Smdp t iccid) : σ → σ → Prop
  | refl {a : σ} : Attempts S a a
  | step {a : σ} {c : Client σ} {s : Session σ} (hbefore : Attempts S a s.remote)
      (hline : S.Line c.transport) : Attempts S a (runOn (c.activate iccid) s).2.remote

theorem Attempts.phase {S : Smdp t iccid} {a b : σ} {r : Record}
    (h : S.Attempts a b) (hrecord : S.record a = some r) (hstate : r.state = "AVAILABLE") :
    Phase S.token r (S.record b) := by
  induction h with
  | refl =>
    rw [hrecord]
    exact .start
  | step _ hline ih =>
    exact (hline.activate_course _).invariant (Phase.move hstate) ih

/-- What an activation that does not fail makes of a profile that was there for an order. -/
structure Resumed (S : Smdp t iccid) (r : Record) (s u : Session σ) (p : Option ProfileStatus) :
    Prop where
  snapshot : p = (S.record u.remote).map Record.snapshot
  released : ¬ (S.record s.remote = some (r.allocated S.token) ∧ S.token ≠ "") →
    ∃ code, code ≠ "" ∧ S.record u.remote = some (r.released code)
  /-- An activation code on an allocated profile keeps it as it is. -/
  unchanged : S.record s.remote = some (r.allocated S.token) → S.token ≠ "" →
    S.record u.remote = S.record s.remote ∧
      u.posted.map (·.1) = s.posted.map (·.1) ++ [.getProfileStatus, .getProfileStatus]

theorem resumed {S : Smdp t iccid} {c : Client σ} {r : Record} {s u : Session σ}
    {result : Except Error (Option ProfileStatus)} {p : Option ProfileStatus}
    (h : Course S c .check s result u) (hok : result = .ok p)
    (hphase : Phase S.token r (S.record s.remote)) (hstate : r.state = "AVAILABLE")
    (htoken : r.acToken = "") : S.Resumed r s u p := by
  obtain ⟨hends, hsnapshot⟩ := h.ends hok
  refine ⟨hsnapshot, fun hnot => ?_, fun hallocated hne => ?_⟩
  · generalize S.record s.remote = q at hphase hends hnot
    cases hphase with
    | start => exact hends.released_of_needsOrder rfl ⟨htoken, .inl hstate⟩
    | allocated =>
      have hempty : S.token = "" := by
        by_contra hne
        exact hnot ⟨rfl, hne⟩
      obtain ⟨code, hcode, hu⟩ := hends.released_of_needsOrder rfl ⟨hempty, .inr rfl⟩
      rw [Record.released_allocated] at hu
      exact ⟨code, hcode, hu⟩
    | @released code hcode =>
      exact ⟨code, hcode, hends.unchanged (Stage.not_confirms_of_token hcode)⟩
  · have hconfirms : ¬ Stage.check.Confirms (S.record s.remote) := by
      rw [hallocated]
      exact Stage.not_confirms_of_token hne
    exact ⟨hends.unchanged hconfirms, h.polls hok hconfirms⟩

end Smdp

/-! ## An interruption behind the order -/

namespace Smdp

variable {t : Transport σ} {iccid : String} {S : Smdp t iccid} {c : Client σ}

/-- A line that loses the polls of an allocated profile. -/
def interrupting (S : Smdp t iccid) (e : Error) : Transport σ :=
  t.losing (fun command s =>
    command == .getProfileStatus && (S.record s).any (·.state == "ALLOCATED")) e

theorem line_interrupting (S : Smdp t iccid) (e : Error) : S.Line (S.interrupting e) :=
  S.line_losing _ e

theorem interrupting_passes {e : Error} (hc : c.transport = S.interrupting e) {stage : Stage}
    {x : Exchange} {s u : Session σ} (hreq : x.request = stage.request iccid)
    (hx : x.Happens c s u) (hdraw : c.CanDraw s.draws) {r : Record}
    (hr : S.record s.remote = some r) (hstate : r.state = "AVAILABLE")
    (hfits : stage.Fits (S.record s.remote)) :
    ∃ p, x.result = .ok p ∧ Move S.token stage (S.record s.remote) (S.record u.remote) p := by
  rcases send_of_happens hx with ⟨callId, -, hsend⟩ | ⟨hnot, -⟩
  · rw [hc, interrupting, Transport.send_losing, hr, Option.any_some, hstate, if_neg (by simp),
      hreq] at hsend
    exact S.move_of_send hreq hsend hfits
  · exact absurd hdraw hnot

theorem interrupting_loses {e : Error} (hc : c.transport = S.interrupting e) {x : Exchange}
    {s u : Session σ} (hreq : x.request = .getProfileStatus iccid) (hx : x.Happens c s u)
    {r : Record} (hr : S.record s.remote = some r) (hstate : r.state = "ALLOCATED") :
    (∃ e, x.result = .error e) ∧ u.remote = s.remote := by
  rcases send_of_happens hx with ⟨callId, -, hsend⟩ | ⟨-, herror, hremote⟩
  · rw [hc, interrupting, Transport.send_losing, hr, Option.any_some, hstate, hreq,
      if_pos (by simp [Request.command])] at hsend
    exact ⟨⟨e, Exchange.result_of_error (congrArg (·.1) hsend).symm⟩, (congrArg (·.2) hsend).symm⟩
  · exact ⟨herror, hremote⟩

/-- Such a line interrupts an activation right behind the order. -/
theorem interrupts {e : Error} (hc : c.transport = S.interrupting e) {s : Session σ}
    (hdraw : ∀ n, s.draws ≤ n → c.CanDraw n) {r : Record} (hr : S.record s.remote = some r)
    (hstate : r.state = "AVAILABLE") (htoken : r.acToken = "") :
    ∃ e u, runOn (c.activate iccid) s = (.error e, u) ∧
      S.record u.remote = some (r.allocated S.token) := by
  obtain ⟨x, s₁, hreq, hx, hrun⟩ := c.resume_step iccid .check s
  obtain ⟨p, hp, hmove⟩ :=
    interrupting_passes hc hreq hx (hdraw _ (Nat.le_refl _)) hr hstate trivial
  obtain ⟨hsame, rfl⟩ := hmove.of_poll rfl
  rw [hr] at hsame
  have hstep : ActivationStep.of ((S.record s.remote).map Record.snapshot) = .needsDownload :=
    (of_snapshot_needsDownload_iff _).mpr ⟨r, hr, hstate, htoken⟩
  simp only [hp, Stage.after, Stage.next?, hstep, Stage.ofStep] at hrun
  obtain ⟨y, s₂, hreq', hy, hrun'⟩ := c.resume_step iccid .order s₁
  have hdraw' : c.CanDraw s₁.draws := hdraw _ (by rw [hx.draws]; omega)
  obtain ⟨p', hp', hmove'⟩ :=
    interrupting_passes hc hreq' hy hdraw' hsame hstate ⟨r, hsame, hstate⟩
  have hallocated := hmove'.of_order hsame
  simp only [hp', Stage.after, Stage.next?] at hrun'
  obtain ⟨z, s₃, hreq'', hz, hrun''⟩ := c.resume_step iccid .recheck s₂
  obtain ⟨⟨e', he'⟩, hremote⟩ := interrupting_loses hc hreq'' hz hallocated rfl
  simp only [he', Stage.after] at hrun''
  refine ⟨e', s₃, (hrun.trans hrun').trans hrun'', ?_⟩
  rw [hremote]
  exact hallocated

end Smdp

def Smdp.sample (token : String) : Smdp (Client.sample token).transport "8901000000000000001" :=
  .compact token "LPA:1$smdp.example$0123-ABCD" _ (by decide)

def Client.interrupted (token : String) : Client (Option Record) :=
  { sample token with transport := (Smdp.sample token).interrupting (.credentials "timed out") }

theorem Client.interrupted_fails (token : String) :
    ∃ e u, runOn ((interrupted token).activate "8901000000000000001") (.start (some .sample)) =
      (.error e, u) ∧ u.remote = some (Record.sample.allocated token) :=
  Smdp.interrupts (S := .sample token) rfl (fun _ _ => ⟨"1", rfl⟩) rfl rfl rfl

/-! ## Activations behind others -/

/-- Behind any attempts to activate an available profile without an activation code, an activation
that does not fail releases it, unless an attempt has left it allocated with an activation code;
then the profile stays so, and is only polled. -/
theorem Smdp.resumes {t : Transport σ} {iccid : String} (S : Smdp t iccid) {r : Record} {a : σ}
    {c : Client σ} {s : Session σ}
    (hrecord : S.record a = some r) (hstate : r.state = "AVAILABLE") (htoken : r.acToken = "")
    (hattempts : S.Attempts a s.remote) (hline : S.Line c.transport) :
    Phase S.token r (S.record s.remote) ∧
      (∀ p u, runOn (c.activate iccid) s = (.ok p, u) → S.Resumed r s u p) ∧
      (c.transport = t → (∀ n, s.draws ≤ n → c.CanDraw n) →
        ∃ p u, runOn (c.activate iccid) s = (.ok p, u)) := by
  have hphase := hattempts.phase hrecord hstate
  have hcourse := hline.activate_course s
  refine ⟨hphase, fun p u hrun => ?_, fun ht hdraw => ?_⟩
  · rw [hrun] at hcourse
    exact resumed hcourse rfl hphase hstate htoken
  · subst ht
    obtain ⟨p, hp⟩ := hcourse.ok hdraw
    exact ⟨p, _, Prod.ext hp rfl⟩

theorem Smdp.resumes_interrupted :
    ∃ e u p v, runOn ((Client.interrupted "").activate "8901000000000000001")
        (.start (some .sample)) = (.error e, u) ∧
      runOn ((Client.sample "").activate "8901000000000000001") u = (.ok p, v) ∧
      ∃ code, code ≠ "" ∧ v.remote = some (Record.sample.released code) := by
  obtain ⟨e, u, hfails, -⟩ := Client.interrupted_fails ""
  have hattempts : (Smdp.sample "").Attempts (some .sample) _ :=
    .step (c := Client.interrupted "") (s := .start (some .sample)) .refl
      ((Smdp.sample "").line_interrupting _)
  rw [show runOn _ _ = _ from hfails] at hattempts
  obtain ⟨-, hresumed, hok⟩ := (Smdp.sample "").resumes (r := .sample) (c := Client.sample "")
    (s := u) rfl rfl rfl hattempts (Smdp.line_self _)
  obtain ⟨p, v, hrun⟩ := hok rfl fun n _ => ⟨"1", rfl⟩
  exact ⟨e, u, p, v, hfails, hrun, (hresumed p v hrun).released fun h => h.2 rfl⟩

/-- A profile that has been allocated with an activation code is not released. -/
theorem Smdp.not_resumes :
    ¬ ∀ (σ : Type) (t : Transport σ) (iccid : String) (S : Smdp t iccid) (c c' : Client σ)
      (r : Record) (s u s' u' : Session σ) (e : Error) (p : Option ProfileStatus),
      S.record s.remote = some r → r.state = "AVAILABLE" → r.acToken = "" →
      S.Line c.transport → runOn (c.activate iccid) s = (.error e, u) →
      c'.transport = t → s'.remote = u.remote → runOn (c'.activate iccid) s' = (.ok p, u') →
      ∃ code, code ≠ "" ∧ S.record u'.remote = some (r.released code) := by
  intro hall
  obtain ⟨e, u, hfails, hremote⟩ := Client.interrupted_fails "LPA:1$a$b"
  have hcourse := (Smdp.sample "LPA:1$a$b").line_self.activate_course (c := .sample "LPA:1$a$b") u
  obtain ⟨p, hp⟩ := hcourse.ok fun n _ => ⟨"1", rfl⟩
  obtain ⟨code, -, hreleased⟩ := hall _ _ _ (.sample "LPA:1$a$b")
    (.interrupted "LPA:1$a$b") (.sample "LPA:1$a$b") .sample (.start (some .sample)) u u _ e p
    rfl rfl rfl ((Smdp.sample _).line_interrupting _) hfails rfl rfl (Prod.ext hp rfl)
  have hrecord : (Smdp.sample "LPA:1$a$b").record u.remote =
      some (Record.sample.allocated "LPA:1$a$b") := hremote
  have hends := (hcourse.ends hp).1
  rw [hrecord, hreleased] at hends
  have hsame := hends.unchanged (Stage.not_confirms_of_token (by decide))
  exact absurd (congrArg Record.state (Option.some.inj hsame)) (by simp)

end Provisioning.Es2
