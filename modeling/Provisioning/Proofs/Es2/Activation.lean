import Provisioning.Es2.Activation
import Provisioning.Proofs.Es2.Exchange
/-!
# The walk of an activation

An activation goes through stages, one exchange each; what an exchange brings decides the next.

* `Stage` : the stages; `Stage.after` is the next one, `Stage.words` what may still be posted;
* `Client.resume` : the activation from a stage on; a whole one starts with a check;
* `Walk` : the exchanges from a stage on, up to the first that fails or the last of all;
* `Client.resume_walks` : from every stage on, an activation is a walk;
* `Activated` : what is posted in an activation, and how it ends;
* `Client.activate_activated` : this holds of every activation.
-/

namespace Provisioning.Es2

variable {σ α : Type}

/-- The words that an activation posts when nothing fails. -/
def activationWords : List (List Command) :=
  [[.getProfileStatus, .getProfileStatus],
    [.getProfileStatus, .confirmOrder, .getProfileStatus],
    [.getProfileStatus, .downloadOrder, .getProfileStatus, .getProfileStatus],
    [.getProfileStatus, .downloadOrder, .getProfileStatus, .confirmOrder, .getProfileStatus]]

/-! ## Stages -/

inductive Stage
  | check
  | order
  | recheck
  | confirm
  | close
  deriving DecidableEq

namespace Stage

def request (iccid : String) : Stage → Request
  | check | recheck | close => .getProfileStatus iccid
  | order => .downloadOrder iccid
  | confirm => .confirmOrder iccid

def command : Stage → Command
  | check | recheck | close => .getProfileStatus
  | order => .downloadOrder
  | confirm => .confirmOrder

theorem command_request (iccid : String) (stage : Stage) :
    (stage.request iccid).command = stage.command := by
  cases stage <;> rfl

/-- The stage that a profile needs first. -/
def ofStep : ActivationStep → Stage
  | .needsDownload => order
  | .needsConfirm => confirm
  | .provisioned | .unknown => close

/-- The stage behind one whose exchange brings a snapshot. -/
def next? : Stage → Option ProfileStatus → Option Stage
  | check, p => some (ofStep (.of p))
  | order, _ => some recheck
  | recheck, p => some (if isAllocated p then confirm else close)
  | confirm, _ => some close
  | close, _ => none

/-- The stage behind one; there is none behind a failure. -/
def after (stage : Stage) : Except Error (Option ProfileStatus) → Option Stage
  | .error _ => none
  | .ok p => stage.next? p

/-- How many exchanges are left at most. -/
def left : Stage → Nat
  | close => 1
  | confirm => 2
  | recheck => 3
  | order => 4
  | check => 5

/-- The words that are posted from a stage on when nothing fails. -/
def words : Stage → List (List Command)
  | close => [[.getProfileStatus]]
  | confirm => [[.confirmOrder, .getProfileStatus]]
  | recheck => [[.getProfileStatus, .getProfileStatus],
    [.getProfileStatus, .confirmOrder, .getProfileStatus]]
  | order => [[.downloadOrder, .getProfileStatus, .getProfileStatus],
    [.downloadOrder, .getProfileStatus, .confirmOrder, .getProfileStatus]]
  | check => activationWords

theorem next?_cases {stage next : Stage} {p : Option ProfileStatus}
    (h : stage.next? p = some next) :
    (stage, next) ∈ [(check, order), (check, confirm), (check, close), (order, recheck),
      (recheck, confirm), (recheck, close), (confirm, close)] := by
  cases stage with
  | check =>
    rw [next?, Option.some.injEq] at h
    rw [← h]
    cases ActivationStep.of p <;> decide
  | order => cases h; decide
  | recheck =>
    rw [next?, Option.some.injEq] at h
    rw [← h]
    cases isAllocated p <;> decide
  | confirm => cases h; decide
  | close => cases h

theorem eq_close_of_next? {stage : Stage} {p : Option ProfileStatus} (h : stage.next? p = none) :
    stage = close := by
  cases stage <;> first | rfl | cases h

theorem after_eq_some {stage next : Stage} {r : Except Error (Option ProfileStatus)}
    (h : stage.after r = some next) : ∃ p, r = .ok p ∧ stage.next? p = some next := by
  cases r with
  | error e => cases h
  | ok p => exact ⟨p, rfl, h⟩

theorem left_lt_of_after {stage next : Stage} {r : Except Error (Option ProfileStatus)}
    (h : stage.after r = some next) : next.left < stage.left := by
  obtain ⟨p, -, hp⟩ := after_eq_some h
  have hmem := next?_cases hp
  revert hmem
  cases stage <;> cases next <;> decide

theorem cons_mem_words {stage next : Stage} {r : Except Error (Option ProfileStatus)}
    (h : stage.after r = some next) {w : List Command} (hw : w ∈ next.words) :
    stage.command :: w ∈ stage.words := by
  obtain ⟨p, -, hp⟩ := after_eq_some h
  have hmem := next?_cases hp
  have hwords : ∀ w ∈ next.words, stage.command :: w ∈ stage.words := by
    revert hmem
    cases stage <;> cases next <;> decide
  exact hwords w hw

theorem exists_cons_mem_words (stage : Stage) : ∃ w, stage.command :: w ∈ stage.words := by
  cases stage <;> exact ⟨_, List.mem_cons_self⟩

end Stage

/-! ## Snapshots -/

namespace ActivationStep

theorem of_eq_needsDownload_iff (p : Option ProfileStatus) :
    ActivationStep.of p = .needsDownload ↔
      ∃ q, p = some q ∧ q.state = .available ∧ q.acToken = "" := by
  rcases p with - | ⟨lastUpdate, acToken, state, eid, iccid, lockFlag⟩
  · simp [ActivationStep.of]
  · by_cases hempty : acToken = ""
    · subst hempty
      cases state <;> simp [ActivationStep.of, ProfileStatus.activationCode?]
    · simp [ActivationStep.of, ProfileStatus.activationCode?, hempty]

theorem of_eq_needsConfirm_iff (p : Option ProfileStatus) :
    ActivationStep.of p = .needsConfirm ↔
      ∃ q, p = some q ∧ q.state = .allocated ∧ q.acToken = "" := by
  rcases p with - | ⟨lastUpdate, acToken, state, eid, iccid, lockFlag⟩
  · simp [ActivationStep.of]
  · by_cases hempty : acToken = ""
    · subst hempty
      cases state <;> simp [ActivationStep.of, ProfileStatus.activationCode?]
    · simp [ActivationStep.of, ProfileStatus.activationCode?, hempty]

end ActivationStep

theorem isAllocated_iff (p : Option ProfileStatus) :
    isAllocated p = true ↔ ∃ q, p = some q ∧ q.state = .allocated := by
  unfold isAllocated
  rw [Option.any_eq_true]
  simp only [beq_iff_eq]

/-! ## Activations from a stage on -/

namespace Client

def closing (c : Client σ) (iccid : String) : Call σ (Option ProfileStatus) := do
  let last ← c.getStatus iccid
  emit (finishedEvent iccid last)
  return last

def confirming (c : Client σ) (iccid : String) : Call σ (Option ProfileStatus) := do
  let _ ← c.confirmOrder iccid
  emit (confirmedEvent iccid)
  c.closing iccid

def rechecking (c : Client σ) (iccid : String) : Call σ (Option ProfileStatus) := do
  let p ← c.getStatus iccid
  emit (orderedEvent iccid (isAllocated p))
  if isAllocated p then c.confirming iccid else c.closing iccid

def ordering (c : Client σ) (iccid : String) : Call σ (Option ProfileStatus) := do
  let _ ← c.downloadOrder iccid
  c.rechecking iccid

/-- The activation from a stage on. -/
def resume (c : Client σ) (iccid : String) : Stage → Call σ (Option ProfileStatus)
  | .check => c.activate iccid
  | .order => c.ordering iccid
  | .recheck => c.rechecking iccid
  | .confirm => c.confirming iccid
  | .close => c.closing iccid

theorem activate_eq (c : Client σ) (iccid : String) :
    c.activate iccid = (do
      let p ← c.getStatus iccid
      emit (startedEvent iccid (.of p))
      c.resume iccid (.ofStep (.of p))) := by
  unfold activate
  refine bind_congr fun p => bind_congr fun _ => ?_
  cases ActivationStep.of p with
  | needsDownload =>
    simp only [orderIfNeeded, Stage.ofStep, resume, ordering, rechecking, bind_assoc, pure_bind]
    rfl
  | needsConfirm =>
    simp only [orderIfNeeded, pure_bind]
    rfl
  | provisioned => rfl
  | unknown => rfl

theorem getStatus_bind_happens (c : Client σ) (iccid : String) (s : Session σ)
    (e : Option ProfileStatus → Event)
    (f : Option ProfileStatus → Call σ (Option ProfileStatus)) :
    ∃ (x : Exchange) (t : Session σ), x.request = .getProfileStatus iccid ∧ x.Happens c s t ∧
      runOn (c.getStatus iccid >>= fun p => emit (e p) >>= fun _ => f p) s =
        match x.result with
        | .error why => (.error why, t)
        | .ok p => runOn (f p) t := by
  obtain ⟨x, t, hx, hs, hrun⟩ := c.getStatus_happens iccid s
  cases hr : x.result with
  | error why =>
    rw [hr] at hrun
    exact ⟨x, t, hx, hs, by rw [runOn_bind_of_error hrun, hr]⟩
  | ok p =>
    rw [hr] at hrun
    exact ⟨x, t.noting [e p], hx, hs.noting _,
      by rw [runOn_bind_of_ok hrun, runOn_bind_of_ok (runOn_emit _ _), hr]⟩

theorem downloadOrder_happens (c : Client σ) (iccid : String) (s : Session σ) :
    ∃ (x : Exchange) (t : Session σ) (r : Except Error DownloadOrderResponse),
      x.request = .downloadOrder iccid ∧ x.Happens c s t ∧ x.result = r.map (fun _ => none) ∧
      runOn (c.downloadOrder iccid) s = (r, t) := by
  obtain ⟨x, t, hx, hs, hrun⟩ :=
    c.execute_requireSuccess_happens (α := DownloadOrderResponse) (.downloadOrder iccid) s
  refine ⟨x, t, _, hx, hs, ?_, hrun⟩
  unfold Exchange.result
  rw [hx]
  rfl

theorem confirmOrder_happens (c : Client σ) (iccid : String) (s : Session σ) :
    ∃ (x : Exchange) (t : Session σ) (r : Except Error ConfirmOrderResponse),
      x.request = .confirmOrder iccid ∧ x.Happens c s t ∧ x.result = r.map (fun _ => none) ∧
      runOn (c.confirmOrder iccid) s = (r, t) := by
  obtain ⟨x, t, hx, hs, hrun⟩ :=
    c.execute_requireSuccess_happens (α := ConfirmOrderResponse) (.confirmOrder iccid) s
  refine ⟨x, t, _, hx, hs, ?_, hrun⟩
  unfold Exchange.result
  rw [hx]
  rfl

/-- A stage is one exchange; its outcome decides how the activation goes on. -/
theorem resume_step (c : Client σ) (iccid : String) (stage : Stage) (s : Session σ) :
    ∃ (x : Exchange) (t : Session σ), x.request = stage.request iccid ∧ x.Happens c s t ∧
      runOn (c.resume iccid stage) s =
        match stage.after x.result with
        | none => (x.result, t)
        | some next => runOn (c.resume iccid next) t := by
  cases stage with
  | check =>
    obtain ⟨x, t, hx, hs, hrun⟩ := c.getStatus_bind_happens iccid s
      (fun p => startedEvent iccid (.of p)) (fun p => c.resume iccid (.ofStep (.of p)))
    refine ⟨x, t, hx, hs, ?_⟩
    rw [resume, activate_eq, hrun]
    cases x.result <;> rfl
  | order =>
    obtain ⟨x, t, r, hx, hs, hr, hrun⟩ := c.downloadOrder_happens iccid s
    refine ⟨x, t, hx, hs, ?_⟩
    rw [resume, ordering, runOn_bind, hrun, hr]
    cases r <;> rfl
  | recheck =>
    obtain ⟨x, t, hx, hs, hrun⟩ := c.getStatus_bind_happens iccid s
      (fun p => orderedEvent iccid (isAllocated p))
      (fun p => if isAllocated p then c.confirming iccid else c.closing iccid)
    refine ⟨x, t, hx, hs, ?_⟩
    rw [resume, rechecking, hrun]
    cases x.result with
    | error why => rfl
    | ok p =>
      simp only [Stage.after, Stage.next?]
      cases isAllocated p <;> rfl
  | confirm =>
    obtain ⟨x, t, r, hx, hs, hr, hrun⟩ := c.confirmOrder_happens iccid s
    cases r with
    | error why =>
      refine ⟨x, t, hx, hs, ?_⟩
      rw [resume, confirming, runOn_bind_of_error hrun, hr]
      rfl
    | ok response =>
      refine ⟨x, t.noting [confirmedEvent iccid], hx, hs.noting _, ?_⟩
      rw [resume, confirming, runOn_bind_of_ok hrun, runOn_bind_of_ok (runOn_emit _ _), hr]
      rfl
  | close =>
    obtain ⟨x, t, hx, hs, hrun⟩ := c.getStatus_bind_happens iccid s (finishedEvent iccid) pure
    refine ⟨x, t, hx, hs, ?_⟩
    rw [resume, closing, hrun]
    cases x.result <;> rfl

end Client

/-! ## Walks -/

def commands (xs : List Exchange) : List Command := xs.flatMap fun x => x.posts.map (·.1)

def Client.CanDraw (c : Client σ) (n : Nat) : Prop := ∃ callId, c.callIds n = .ok callId

/-- Exchanges that take a session to another, one behind the other. -/
inductive Exchanges (c : Client σ) : List Exchange → Session σ → Session σ → Prop
  | nil {s : Session σ} : Exchanges c [] s s
  | cons {x : Exchange} {xs : List Exchange} {s t u : Session σ} (hx : x.Happens c s t)
      (hxs : Exchanges c xs t u) : Exchanges c (x :: xs) s u

theorem Exchange.Happens.draws {c : Client σ} {x : Exchange} {s t : Session σ}
    (h : x.Happens c s t) : t.draws = s.draws + 1 := by
  cases h <;> assumption

theorem Exchange.Happens.posted_eq {c : Client σ} {x : Exchange} {s t : Session σ}
    (h : x.Happens c s t) : t.posted = s.posted ++ x.posts := by
  cases h with
  | undrawn hdraw hdraws hposted hremote => rw [hposted, List.append_nil]
  | posted hdraw hdraws hposted hpost => exact hposted

theorem Exchange.Happens.commands_cases {c : Client σ} {x : Exchange} {s t : Session σ}
    (h : x.Happens c s t) :
    (c.CanDraw s.draws ∧ x.posts.map (·.1) = [x.request.command]) ∨
      (¬ c.CanDraw s.draws ∧ x.posts.map (·.1) = [] ∧ ∃ why, x.result = .error why) := by
  cases h with
  | undrawn hdraw hdraws hposted hremote =>
    refine .inr ⟨?_, rfl, _, result_of_error rfl⟩
    rintro ⟨callId, hcall⟩
    rw [hdraw] at hcall
    cases hcall
  | posted hdraw hdraws hposted hpost => exact .inl ⟨⟨_, hdraw⟩, rfl⟩

theorem Exchanges.posted {c : Client σ} {xs : List Exchange} {s u : Session σ}
    (h : Exchanges c xs s u) : u.posted = s.posted ++ xs.flatMap (·.posts) := by
  induction h with
  | nil => exact (List.append_nil _).symm
  | cons hx hxs ih => rw [ih, hx.posted_eq, List.flatMap_cons, List.append_assoc]

/-- Exchanges from a stage on, each in the stage behind the one before. -/
inductive Walk (c : Client σ) (iccid : String) :
    Stage → List Exchange → Session σ → Session σ → Prop
  | last {stage : Stage} {x : Exchange} {s t : Session σ} (hreq : x.request = stage.request iccid)
      (hx : x.Happens c s t) (hlast : stage.after x.result = none) : Walk c iccid stage [x] s t
  | step {stage next : Stage} {x : Exchange} {xs : List Exchange} {s t u : Session σ}
      (hreq : x.request = stage.request iccid) (hx : x.Happens c s t)
      (hnext : stage.after x.result = some next) (hxs : Walk c iccid next xs t u) :
      Walk c iccid stage (x :: xs) s u

/-- From every stage on, an activation is a walk, and ends as its last exchange does. -/
theorem Client.resume_walks (c : Client σ) (iccid : String) (stage : Stage) (s : Session σ) :
    ∃ xs x u, Walk c iccid stage (xs ++ [x]) s u ∧
      runOn (c.resume iccid stage) s = (x.result, u) := by
  obtain ⟨x, t, hreq, hx, hrun⟩ := c.resume_step iccid stage s
  cases hafter : stage.after x.result with
  | none =>
    rw [hafter] at hrun
    exact ⟨[], x, t, .last hreq hx hafter, hrun⟩
  | some next =>
    rw [hafter] at hrun
    have hleft : next.left < stage.left := Stage.left_lt_of_after hafter
    obtain ⟨ys, y, u, hwalk, hrest⟩ := c.resume_walks iccid next t
    exact ⟨x :: ys, y, u, .step hreq hx hafter hwalk, hrun.trans hrest⟩
termination_by stage.left

namespace Walk

variable {c : Client σ} {iccid : String} {stage : Stage} {xs : List Exchange} {s u : Session σ}

theorem exchanges (h : Walk c iccid stage xs s u) : Exchanges c xs s u := by
  induction h with
  | last _ hx _ => exact .cons hx .nil
  | step _ hx _ _ ih => exact .cons hx ih

theorem eq_nil_of_error (h : Walk c iccid stage xs s u) {x : Exchange} {ys zs : List Exchange}
    {e : Error} (hxs : xs = ys ++ x :: zs) (hx : x.result = .error e) : zs = [] := by
  induction h generalizing ys with
  | last _ _ _ =>
    rcases ys with - | ⟨y, ys⟩
    · exact (List.cons.inj hxs).2.symm
    · exact absurd (List.cons.inj hxs).2.symm (List.append_ne_nil_of_right_ne_nil _ (by simp))
  | step _ _ hnext _ ih =>
    rcases ys with - | ⟨y, ys⟩
    · cases hxs
      rw [hx] at hnext
      cases hnext
    · cases hxs
      exact ih rfl

theorem posts_of_after {x : Exchange} {next : Stage} {t : Session σ}
    (hreq : x.request = stage.request iccid) (hx : x.Happens c s t)
    (hnext : stage.after x.result = some next) :
    c.CanDraw s.draws ∧ x.posts.map (·.1) = [stage.command] := by
  rcases hx.commands_cases with ⟨hdraw, hposts⟩ | ⟨-, -, why, hwhy⟩
  · rw [hreq, Stage.command_request] at hposts
    exact ⟨hdraw, hposts⟩
  · rw [hwhy] at hnext
    cases hnext

/-- What is posted is the start of a word. -/
theorem commands_le (h : Walk c iccid stage xs s u) : ∃ w ∈ stage.words, commands xs <+: w := by
  induction h with
  | @last stage x s t hreq hx _ =>
    obtain ⟨w, hw⟩ := stage.exists_cons_mem_words
    refine ⟨_, hw, ?_⟩
    rw [commands, List.flatMap_singleton]
    rcases hx.commands_cases with ⟨-, hposts⟩ | ⟨-, hposts, -⟩
    · rw [hposts, hreq, Stage.command_request]
      exact ⟨w, rfl⟩
    · rw [hposts]
      exact List.nil_prefix
  | @step stage next x xs s t u hreq hx hnext _ ih =>
    obtain ⟨w, hw, hle⟩ := ih
    refine ⟨_, Stage.cons_mem_words hnext hw, ?_⟩
    rw [commands, List.flatMap_cons, (posts_of_after hreq hx hnext).2]
    exact List.cons_prefix_cons.mpr ⟨rfl, hle⟩

theorem not_mem_commands (h : Walk c iccid stage xs s u) {command : Command}
    (hwords : ∀ w ∈ stage.words, command ∉ w) : command ∉ commands xs := by
  obtain ⟨w, hw, hle⟩ := h.commands_le
  exact fun hmem => hwords w hw (hle.subset hmem)

/-- When nothing fails, what is posted is a word, and the profile is asked for last. -/
theorem commands_mem (h : Walk c iccid stage xs s u) (hok : ∀ x ∈ xs, ∃ p, x.result = .ok p) :
    commands xs ∈ stage.words ∧ xs.getLast?.map (·.request) = some (.getProfileStatus iccid) := by
  induction h with
  | @last stage x s t hreq hx hlast =>
    obtain ⟨p, hp⟩ := hok x List.mem_cons_self
    rw [hp] at hlast
    rcases hx.commands_cases with ⟨-, hposts⟩ | ⟨-, -, why, hwhy⟩
    · obtain rfl := Stage.eq_close_of_next? hlast
      refine ⟨?_, congrArg some hreq⟩
      rw [commands, List.flatMap_singleton, hposts, hreq]
      exact List.mem_cons_self
    · cases hp.symm.trans hwhy
  | @step stage next x xs s t u hreq hx hnext hxs ih =>
    obtain ⟨hmem, hlast⟩ := ih fun y hy => hok y (List.mem_cons_of_mem x hy)
    refine ⟨?_, ?_⟩
    · rw [commands, List.flatMap_cons, (posts_of_after hreq hx hnext).2]
      exact Stage.cons_mem_words hnext hmem
    · rcases xs with - | ⟨y, ys⟩
      · cases hxs
      · rw [List.getLast?_cons_cons]
        exact hlast

/-- A walk posts the command of its stage first; without an identifier, it posts nothing. -/
theorem commands_cases (h : Walk c iccid stage xs s u) :
    (c.CanDraw s.draws ∧ (commands xs).head? = some stage.command) ∨
      (¬ c.CanDraw s.draws ∧ commands xs = []) := by
  cases h with
  | last hreq hx _ =>
    rw [commands, List.flatMap_singleton]
    rcases hx.commands_cases with ⟨hdraw, hposts⟩ | ⟨hdraw, hposts, -⟩
    · rw [hposts, hreq, Stage.command_request]
      exact .inl ⟨hdraw, rfl⟩
    · exact .inr ⟨hdraw, hposts⟩
  | step hreq hx hnext _ =>
    obtain ⟨hdraw, hposts⟩ := posts_of_after hreq hx hnext
    rw [commands, List.flatMap_cons, hposts]
    exact .inl ⟨hdraw, rfl⟩

theorem command_mem_iff (h : Walk c iccid stage xs s u) :
    stage.command ∈ commands xs ↔ c.CanDraw s.draws := by
  rcases h.commands_cases with ⟨hdraw, hhead⟩ | ⟨hdraw, hnil⟩
  · exact ⟨fun _ => hdraw, fun _ => List.mem_of_mem_head? hhead⟩
  · rw [hnil]
    exact ⟨fun hmem => absurd hmem List.not_mem_nil, fun hcan => absurd hcan hdraw⟩

end Walk

/-! ## Activations -/

/-- An activation: its first exchange, the others, and what it leaves behind. -/
structure Activated (c : Client σ) (iccid : String) (s u : Session σ)
    (result : Except Error (Option ProfileStatus)) (first : Exchange) (rest : List Exchange) :
    Prop where
  exchanges : Exchanges c (first :: rest) s u
  posted : u.posted = s.posted ++ (first :: rest).flatMap (·.posts)
  first_request : first.request = .getProfileStatus iccid
  word : ∃ w ∈ activationWords, commands (first :: rest) <+: w
  downloadOrder_iff : .downloadOrder ∈ commands (first :: rest) ↔
    (∃ p, first.result = .ok (some p) ∧ p.state = .available ∧ p.acToken = "") ∧
      c.CanDraw (s.draws + 1)
  /-- Behind a download order the activation code does not count. -/
  confirmOrder_iff : .confirmOrder ∈ commands (first :: rest) ↔
    ((∃ p, first.result = .ok (some p) ∧ p.state = .allocated ∧ p.acToken = "") ∧
      c.CanDraw (s.draws + 1)) ∨
    ∃ ordered again more, rest = ordered :: again :: more ∧
      ordered.request = .downloadOrder iccid ∧ (∃ r, ordered.result = .ok r) ∧
      again.request = .getProfileStatus iccid ∧
      (∃ p, again.result = .ok (some p) ∧ p.state = .allocated) ∧ c.CanDraw (s.draws + 3)
  /-- The first command besides the polls is the one that the first snapshot asks for. -/
  next_iff : ∀ command,
    (commands (first :: rest)).find? (fun other => other != .getProfileStatus) = some command ↔
      (∃ p, first.result = .ok p ∧ (ActivationStep.of p).next? = some command) ∧
        c.CanDraw (s.draws + 1)
  fails : ∀ xs x ys e, first :: rest = xs ++ x :: ys → x.result = .error e →
    ys = [] ∧ result = .error e
  succeeds : (∀ x ∈ first :: rest, ∃ p, x.result = .ok p) →
    commands (first :: rest) ∈ activationWords ∧ ∃ xs x, first :: rest = xs ++ [x] ∧
      x.request = .getProfileStatus iccid ∧ result = x.result

namespace Walk

variable {c : Client σ} {iccid : String} {stage : Stage} {x : Exchange} {xs : List Exchange}
  {s u : Session σ}

theorem cons_cases (h : Walk c iccid stage (x :: xs) s u) :
    ∃ t, x.request = stage.request iccid ∧ x.Happens c s t ∧
      ((stage.after x.result = none ∧ xs = []) ∨
        ∃ next, stage.after x.result = some next ∧ Walk c iccid next xs t u) := by
  cases h with
  | last hreq hx hlast => exact ⟨_, hreq, hx, .inl ⟨hlast, rfl⟩⟩
  | step hreq hx hnext hxs => exact ⟨_, hreq, hx, .inr ⟨_, hnext, hxs⟩⟩

theorem exists_cons (h : Walk c iccid stage xs s u) : ∃ x ys, xs = x :: ys := by
  cases h with
  | last _ _ _ => exact ⟨_, _, rfl⟩
  | step _ _ _ _ => exact ⟨_, _, rfl⟩

theorem find?_commands_cons (h : Walk c iccid stage (x :: xs) s u) {p : Command → Bool}
    (hp : p stage.command = false) : (commands (x :: xs)).find? p = (commands xs).find? p := by
  obtain ⟨t, hreq, hx, -⟩ := h.cons_cases
  rw [commands, List.flatMap_cons, ← commands]
  rcases hx.commands_cases with ⟨-, hposts⟩ | ⟨-, hposts, -⟩
  · rw [hposts, hreq, Stage.command_request, List.singleton_append, List.find?_cons_of_neg]
    rw [hp]
    exact Bool.false_ne_true
  · rw [hposts, List.nil_append]

theorem mem_commands_cons (h : Walk c iccid stage (x :: xs) s u) {command : Command}
    (hne : command ≠ stage.command) : command ∈ commands (x :: xs) ↔ command ∈ commands xs := by
  obtain ⟨t, hreq, hx, -⟩ := h.cons_cases
  rw [commands, List.flatMap_cons, ← commands, List.mem_append, or_iff_right]
  rcases hx.commands_cases with ⟨-, hposts⟩ | ⟨-, hposts, -⟩
  · rw [hposts, hreq, Stage.command_request, List.mem_singleton]
    exact hne
  · rw [hposts]
    exact List.not_mem_nil

/-- Behind a second look, the state alone decides whether the order is confirmed. -/
theorem confirmOrder_mem_recheck (h : Walk c iccid .recheck xs s u) :
    .confirmOrder ∈ commands xs ↔ ∃ again more, xs = again :: more ∧
      again.request = .getProfileStatus iccid ∧
      (∃ p, again.result = .ok (some p) ∧ p.state = .allocated) ∧ c.CanDraw (s.draws + 1) := by
  obtain ⟨x, ys, rfl⟩ := h.exists_cons
  obtain ⟨t, hreq, hx, hrest⟩ := h.cons_cases
  rw [h.mem_commands_cons (by decide), ← hx.draws]
  rcases hrest with ⟨hnone, rfl⟩ | ⟨next, hnext, hys⟩
  · refine ⟨fun hmem => absurd hmem List.not_mem_nil, ?_⟩
    rintro ⟨_, _, heq, -, ⟨p, hp, -⟩, -⟩
    rw [← (List.cons.inj heq).1] at hp
    rw [hp] at hnone
    cases hnone
  · obtain ⟨p, hp, hstage⟩ := Stage.after_eq_some hnext
    cases hstage
    cases halloc : isAllocated p with
    | false =>
      rw [halloc, if_neg Bool.false_ne_true] at hys
      refine ⟨fun hmem => absurd hmem (hys.not_mem_commands (by decide)), ?_⟩
      rintro ⟨_, _, heq, -, ⟨q, hq, hstate⟩, -⟩
      rw [← (List.cons.inj heq).1, hp] at hq
      cases hq
      exact absurd ((isAllocated_iff _).mpr ⟨q, rfl, hstate⟩) (ne_true_of_eq_false halloc)
    | true =>
      rw [halloc, if_pos rfl] at hys
      obtain ⟨q, rfl, hstate⟩ := (isAllocated_iff p).mp halloc
      constructor
      · intro hmem
        exact ⟨x, ys, rfl, hreq, ⟨q, hp, hstate⟩, hys.command_mem_iff.mp hmem⟩
      · rintro ⟨_, _, _, -, -, hdraw⟩
        exact hys.command_mem_iff.mpr hdraw

theorem confirmOrder_mem_order (h : Walk c iccid .order xs s u) :
    .confirmOrder ∈ commands xs ↔ ∃ ordered again more, xs = ordered :: again :: more ∧
      ordered.request = .downloadOrder iccid ∧ (∃ r, ordered.result = .ok r) ∧
      again.request = .getProfileStatus iccid ∧
      (∃ p, again.result = .ok (some p) ∧ p.state = .allocated) ∧ c.CanDraw (s.draws + 2) := by
  obtain ⟨x, ys, rfl⟩ := h.exists_cons
  obtain ⟨t, hreq, hx, hrest⟩ := h.cons_cases
  rw [h.mem_commands_cons (by decide)]
  rcases hrest with ⟨hnone, rfl⟩ | ⟨next, hnext, hys⟩
  · refine ⟨fun hmem => absurd hmem List.not_mem_nil, ?_⟩
    rintro ⟨_, _, _, heq, -⟩
    cases (List.cons.inj heq).2
  · obtain ⟨r, hr, hstage⟩ := Stage.after_eq_some hnext
    cases hstage
    rw [hys.confirmOrder_mem_recheck, hx.draws]
    constructor
    · rintro ⟨again, more, rfl, hagain⟩
      exact ⟨x, again, more, rfl, hreq, ⟨r, hr⟩, hagain⟩
    · rintro ⟨_, again, more, heq, -, -, hagain⟩
      exact ⟨again, more, (List.cons.inj heq).2, hagain⟩

theorem check_cases (h : Walk c iccid .check (x :: xs) s u) :
    ∃ t, x.Happens c s t ∧ ((∃ e, x.result = .error e) ∧ xs = [] ∨
      ∃ p, x.result = .ok p ∧ Walk c iccid (.ofStep (.of p)) xs t u) := by
  obtain ⟨t, -, hx, ⟨hnone, rfl⟩ | ⟨next, hnext, hxs⟩⟩ := h.cons_cases
  · refine ⟨t, hx, .inl ⟨?_, rfl⟩⟩
    cases hr : x.result with
    | error e => exact ⟨e, rfl⟩
    | ok p =>
      rw [hr] at hnone
      cases hnone
  · obtain ⟨p, hp, hstage⟩ := Stage.after_eq_some hnext
    cases hstage
    exact ⟨t, hx, .inr ⟨p, hp, hxs⟩⟩

theorem find?_commands (h : Walk c iccid stage xs s u) (hne : stage.command ≠ .getProfileStatus)
    (command : Command) :
    (commands xs).find? (fun other => other != .getProfileStatus) = some command ↔
      some stage.command = some command ∧ c.CanDraw s.draws := by
  rcases h.commands_cases with ⟨hdraw, hhead⟩ | ⟨hdraw, hnil⟩
  · obtain ⟨cs, hcs⟩ := List.head?_eq_some_iff.mp hhead
    rw [hcs, and_iff_left hdraw]
    exact iff_of_eq (congrArg (· = some command) (List.find?_cons_of_pos (bne_iff_ne.mpr hne)))
  · rw [hnil]
    exact iff_of_false (fun hfind => by cases hfind) (fun hand => hdraw hand.2)

theorem find?_commands_close (h : Walk c iccid .close xs s u) :
    (commands xs).find? (fun other => other != .getProfileStatus) = none := by
  obtain ⟨w, hw, hle⟩ := h.commands_le
  obtain rfl := List.mem_singleton.mp hw
  refine List.find?_eq_none.mpr fun other hother => ?_
  rw [List.mem_singleton.mp (hle.subset hother)]
  decide

/-! ## Behind a first look -/

variable {step : ActivationStep}

theorem find?_commands_ofStep (h : Walk c iccid (.ofStep step) xs s u) (command : Command) :
    (commands xs).find? (fun other => other != .getProfileStatus) = some command ↔
      step.next? = some command ∧ c.CanDraw s.draws := by
  cases step with
  | needsDownload => exact h.find?_commands (by decide) command
  | needsConfirm => exact h.find?_commands (by decide) command
  | provisioned | unknown =>
    rw [h.find?_commands_close]
    exact iff_of_false (fun hnone => by cases hnone) (fun hand => by cases hand.1)

theorem downloadOrder_mem_ofStep (h : Walk c iccid (.ofStep step) xs s u) :
    .downloadOrder ∈ commands xs ↔ step = .needsDownload ∧ c.CanDraw s.draws := by
  cases step with
  | needsDownload => exact h.command_mem_iff.trans (and_iff_right rfl).symm
  | needsConfirm | provisioned | unknown =>
    exact iff_of_false (h.not_mem_commands (by decide)) (fun hand => by cases hand.1)

theorem confirmOrder_mem_ofStep (h : Walk c iccid (.ofStep step) xs s u) :
    .confirmOrder ∈ commands xs ↔ (step = .needsConfirm ∧ c.CanDraw s.draws) ∨
      ∃ ordered again more, xs = ordered :: again :: more ∧
        ordered.request = .downloadOrder iccid ∧ (∃ r, ordered.result = .ok r) ∧
        again.request = .getProfileStatus iccid ∧
        (∃ p, again.result = .ok (some p) ∧ p.state = .allocated) ∧ c.CanDraw (s.draws + 2) := by
  have hrequest : ∀ ordered again more, xs = ordered :: again :: more →
      ordered.request = .downloadOrder iccid → Stage.ofStep step = .order := by
    rintro ordered again more rfl hreq
    obtain ⟨t, hstage, -⟩ := h.cons_cases
    rw [hreq] at hstage
    cases step <;> first | rfl | cases hstage
  cases step with
  | needsDownload =>
    rw [h.confirmOrder_mem_order]
    exact (or_iff_right fun hand => by cases hand.1).symm
  | needsConfirm =>
    rw [or_iff_left]
    · exact h.command_mem_iff.trans (and_iff_right rfl).symm
    · rintro ⟨ordered, again, more, hxs, hreq, -⟩
      cases hrequest ordered again more hxs hreq
  | provisioned | unknown =>
    refine iff_of_false (h.not_mem_commands (by decide)) ?_
    rintro (⟨hstep, -⟩ | ⟨ordered, again, more, hxs, hreq, -⟩)
    · cases hstep
    · cases hrequest ordered again more hxs hreq

theorem downloadOrder_iff (h : Walk c iccid .check (x :: xs) s u) :
    .downloadOrder ∈ commands (x :: xs) ↔
      (∃ p, x.result = .ok (some p) ∧ p.state = .available ∧ p.acToken = "") ∧
        c.CanDraw (s.draws + 1) := by
  rw [h.mem_commands_cons (by decide)]
  obtain ⟨t, hx, ⟨⟨e, he⟩, rfl⟩ | ⟨p, hp, hxs⟩⟩ := h.check_cases
  · refine iff_of_false List.not_mem_nil ?_
    rintro ⟨⟨q, hq, -⟩, -⟩
    cases he.symm.trans hq
  · rw [hxs.downloadOrder_mem_ofStep, ActivationStep.of_eq_needsDownload_iff, hx.draws, hp]
    simp only [Except.ok.injEq]

theorem confirmOrder_iff (h : Walk c iccid .check (x :: xs) s u) :
    .confirmOrder ∈ commands (x :: xs) ↔
      ((∃ p, x.result = .ok (some p) ∧ p.state = .allocated ∧ p.acToken = "") ∧
        c.CanDraw (s.draws + 1)) ∨
      ∃ ordered again more, xs = ordered :: again :: more ∧
        ordered.request = .downloadOrder iccid ∧ (∃ r, ordered.result = .ok r) ∧
        again.request = .getProfileStatus iccid ∧
        (∃ p, again.result = .ok (some p) ∧ p.state = .allocated) ∧ c.CanDraw (s.draws + 3) := by
  rw [h.mem_commands_cons (by decide)]
  obtain ⟨t, hx, ⟨⟨e, he⟩, rfl⟩ | ⟨p, hp, hxs⟩⟩ := h.check_cases
  · refine iff_of_false List.not_mem_nil ?_
    rintro (⟨⟨q, hq, -⟩, -⟩ | ⟨_, _, _, hnil, -⟩)
    · cases he.symm.trans hq
    · cases hnil
  · rw [hxs.confirmOrder_mem_ofStep, ActivationStep.of_eq_needsConfirm_iff, hx.draws, hp]
    simp only [Except.ok.injEq]

theorem next_iff (h : Walk c iccid .check (x :: xs) s u) (command : Command) :
    (commands (x :: xs)).find? (fun other => other != .getProfileStatus) = some command ↔
      (∃ p, x.result = .ok p ∧ (ActivationStep.of p).next? = some command) ∧
        c.CanDraw (s.draws + 1) := by
  rw [h.find?_commands_cons (by decide)]
  obtain ⟨t, hx, ⟨⟨e, he⟩, rfl⟩ | ⟨p, hp, hxs⟩⟩ := h.check_cases
  · refine iff_of_false (fun hfind => by cases hfind) ?_
    rintro ⟨⟨q, hq, -⟩, -⟩
    cases he.symm.trans hq
  · rw [hxs.find?_commands_ofStep, hx.draws, hp]
    simp only [Except.ok.injEq, exists_eq_left']

end Walk

/-- An activation stops at the first exchange that fails and ends with its error. Otherwise it ends
with the snapshot of the last poll. An order or a confirmation is posted exactly if the snapshots
before ask for it and there is an identifier for it. -/
theorem Client.activate_activated (c : Client σ) (iccid : String) (s : Session σ) :
    ∃ first rest, Activated c iccid s (runOn (c.activate iccid) s).2
      (runOn (c.activate iccid) s).1 first rest := by
  obtain ⟨xs, x, u, h, hrun⟩ := c.resume_walks iccid .check s
  obtain ⟨first, rest, hxs⟩ := h.exists_cons
  rw [show runOn (c.activate iccid) s = (x.result, u) from hrun]
  have hfails : ∀ ys y zs e, xs ++ [x] = ys ++ y :: zs → y.result = .error e →
      zs = [] ∧ x.result = .error e := by
    intro ys y zs e heq hy
    obtain rfl := h.eq_nil_of_error heq hy
    obtain ⟨-, hlast⟩ := List.append_inj' heq rfl
    cases hlast
    exact ⟨rfl, hy⟩
  have hsucceeds : (∀ y ∈ xs ++ [x], ∃ p, y.result = .ok p) →
      commands (xs ++ [x]) ∈ activationWords ∧ ∃ ys y, xs ++ [x] = ys ++ [y] ∧
        y.request = .getProfileStatus iccid ∧ x.result = y.result := by
    intro hok
    obtain ⟨hmem, hlast⟩ := h.commands_mem hok
    rw [List.getLast?_concat, Option.map_some, Option.some.injEq] at hlast
    exact ⟨hmem, xs, x, rfl, hlast, rfl⟩
  rw [hxs] at h hfails hsucceeds
  obtain ⟨-, hreq, -⟩ := h.cons_cases
  exact ⟨first, rest, {
    exchanges := h.exchanges
    posted := h.exchanges.posted
    first_request := hreq
    word := h.commands_le
    downloadOrder_iff := h.downloadOrder_iff
    confirmOrder_iff := h.confirmOrder_iff
    next_iff := h.next_iff
    fails := hfails
    succeeds := hsucceeds }⟩

/-! ## A source that runs dry -/

/-- A client whose source has one identifier. -/
def Client.scarce : Client (List (Except Error Reply)) where
  transport := .replay (.credentials "no reply left")
  callIds n := if n = 0 then .ok "1" else .error "entropy unavailable"
  requesterId := "requester"
  logPayloads := false

/-- The reply of a server that has a profile for download. -/
def availableReply : Reply where
  status := 200
  adminProtocol := some adminProtocol
  body := "\x7b\"profileStatusList\": [\x7b\"state\": \"AVAILABLE\"\x7d]\x7d".toUTF8.toList

/-- Without an identifier, no order is posted for a profile that asks for one. -/
theorem Client.not_downloadOrder_iff :
    ¬ ((∃ p, (runOn (scarce.getStatus "1") (.start [.ok availableReply])).1 = .ok (some p) ∧
        p.state = .available ∧ p.acToken = "") ↔
      .downloadOrder ∈
        (runOn (scarce.activate "1") (.start [.ok availableReply])).2.posted.map (·.1)) := by
  have hposted : (runOn (scarce.activate "1") (.start [.ok availableReply])).2.posted.map (·.1) =
      [.getProfileStatus] := by decide +kernel
  have hfirst : ((runOn (scarce.getStatus "1") (.start [.ok availableReply])).1.toOption.bind id) =
      some { state := .available } := by decide +kernel
  rw [hposted]
  intro hiff
  have hmem := hiff.mp ?_
  · exact absurd hmem (by decide)
  · cases hr : (runOn (scarce.getStatus "1") (.start [.ok availableReply])).1 with
    | error e =>
      rw [hr] at hfirst
      cases hfirst
    | ok p =>
      rw [hr] at hfirst
      exact ⟨_, congrArg Except.ok hfirst, rfl, rfl⟩

end Provisioning.Es2
