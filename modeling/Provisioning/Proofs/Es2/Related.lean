import Provisioning.Proofs.Es2.Operation
/-!
# Two runs side by side

Calls in two sessions, with servers of their own, that go the same way.

* `SameOutcome` : both a value, or both a failure, and related;
* `Extends` : calls behind which what was posted is still there; all calls of a client are such
  (`Client.perform_extends`, `Client.resume_extends`);
* `RelatedIn` : calls that take related sessions to the same outcome and to related sessions, as far
  as they stay within two runs; `Related` is the same without a bound;
* `RelatedIn.bind` : one call behind another; `RelatedIn.bind_noting` : with an event between them;
* `RelatedIn.activate` : activations, if the functions that they are made of are related;
* `RelatedIn.performAll` : runs of calls, if each call is related.
-/

namespace Provisioning.Es2

variable {σ τ α β : Type}

/-- Both a value, or both a failure, and related. -/
inductive SameOutcome (E : Error → Error → Prop) (P : α → β → Prop) :
    Except Error α → Except Error β → Prop
  | ok {a : α} {b : β} (h : P a b) : SameOutcome E P (.ok a) (.ok b)
  | error {e e' : Error} (h : E e e') : SameOutcome E P (.error e) (.error e')

theorem SameOutcome.mono {E : Error → Error → Prop} {P Q : α → β → Prop} {r : Except Error α}
    {r' : Except Error β} (h : SameOutcome E P r r') (hPQ : ∀ a b, P a b → Q a b) :
    SameOutcome E Q r r' := by
  cases h with
  | ok h => exact .ok (hPQ _ _ h)
  | error h => exact .error h

theorem SameOutcome.mono_error {E E' : Error → Error → Prop} {P : α → β → Prop}
    {r : Except Error α} {r' : Except Error β} (h : SameOutcome E P r r')
    (hE : ∀ e e', E e e' → E' e e') : SameOutcome E' P r r' := by
  cases h with
  | ok h => exact .ok h
  | error h => exact .error (hE _ _ h)

/-! ## Sessions within a run -/

/-- Behind the call, what was posted before is still there. -/
def Extends (x : Call σ α) : Prop := ∀ s, s.posted <+: (runOn x s).2.posted

namespace Extends

theorem pure (a : α) : Extends (Pure.pure a : Call σ α) := fun _ => List.prefix_rfl

theorem throw (e : Error) : Extends (MonadExcept.throw e : Call σ α) := fun _ => List.prefix_rfl

theorem emit (e : Event) : Extends (Es2.emit e : Call σ Unit) := fun _ => List.prefix_rfl

theorem bind {x : Call σ α} {f : α → Call σ β} (hx : Extends x) (hf : ∀ a, Extends (f a)) :
    Extends (x >>= f) := by
  intro s
  have hfirst := hx s
  rw [runOn_bind]
  generalize runOn x s = p at hfirst ⊢
  obtain ⟨r, u⟩ := p
  cases r with
  | error e => exact hfirst
  | ok a => exact hfirst.trans (hf a u)

end Extends

namespace Client

theorem perform_extends (c : Client σ) (op : Operation) : Extends (c.perform op) := by
  intro s
  obtain ⟨x, more, -, hop⟩ := c.perform_conducted op s
  exact ⟨_, hop.posted.symm⟩

theorem resume_extends (c : Client σ) (iccid : String) (stage : Stage) :
    Extends (c.resume iccid stage) := by
  intro s
  obtain ⟨xs, x, u, hwalk, hrun⟩ := c.resume_walks iccid stage s
  rw [hrun]
  exact ⟨_, hwalk.exchanges.posted.symm⟩

theorem branch_extends (c : Client σ) (iccid : String) (b : Bool) :
    Extends (if b then c.confirming iccid else c.closing iccid) := by
  cases b with
  | false => exact c.resume_extends iccid .close
  | true => exact c.resume_extends iccid .confirm

theorem requireSuccess_extends [Response α] (command : Command) (a : α) :
    Extends (requireSuccess command a : Call σ α) := by
  intro s
  obtain ⟨es, hrun⟩ := runOn_requireSuccess command a s
  rw [hrun]
  exact List.prefix_rfl

theorem performAll_extends (c : Client σ) (ops : List Operation) (s : Session σ) :
    s.posted <+: (c.performAll ops s).posted := by
  induction ops generalizing s with
  | nil => exact List.prefix_rfl
  | cons op ops ih => exact (c.perform_extends op s).trans (ih _)

theorem performAll_append (c : Client σ) (front back : List Operation) (s : Session σ) :
    c.performAll (front ++ back) s = c.performAll back (c.performAll front s) := by
  induction front generalizing s with
  | nil => rfl
  | cons op front ih => exact ih _

end Client

/-- What holds of a session only if it held of the sessions that led to it. -/
def IsPast (F : Session σ → Prop) : Prop := ∀ ⦃s u⦄, s.posted <+: u.posted → F u → F s

/-- `F` holds behind the call only if it held before. -/
def Backs (F : Session σ → Prop) (x : Call σ α) : Prop := ∀ s, F (runOn x s).2 → F s

theorem IsPast.backs {F : Session σ → Prop} (hF : IsPast F) {x : Call σ α} (hx : Extends x) :
    Backs F x :=
  fun s => hF (hx s)

theorem Backs.first {F : Session σ → Prop} {x : Call σ α} {f : α → Call σ β}
    (hf : ∀ a, Backs F (f a)) {s : Session σ} (h : F (runOn (x >>= f) s).2) : F (runOn x s).2 := by
  rw [runOn_bind] at h
  generalize runOn x s = p at h ⊢
  obtain ⟨r, u⟩ := p
  cases r with
  | error e => exact h
  | ok a => exact hf a u h

/-! ## Related calls -/

/-- Two calls that take sessions related by `S` to the same outcome, and to sessions related
by `S`, if the sessions behind them are in `F` and in `F'`. -/
def RelatedIn (F : Session σ → Prop) (F' : Session τ → Prop) (S : Session σ → Session τ → Prop)
    (E : Error → Error → Prop) (P : α → β → Prop) (x : Call σ α) (y : Call τ β) : Prop :=
  ∀ ⦃s t⦄, S s t → F (runOn x s).2 → F' (runOn y t).2 →
    SameOutcome E P (runOn x s).1 (runOn y t).1 ∧ S (runOn x s).2 (runOn y t).2

namespace RelatedIn

variable {F : Session σ → Prop} {F' : Session τ → Prop} {S : Session σ → Session τ → Prop}
  {E : Error → Error → Prop}

theorem pure {P : α → β → Prop} {a : α} {b : β} (h : P a b) :
    RelatedIn F F' S E P (Pure.pure a) (Pure.pure b) :=
  fun _ _ hs _ _ => ⟨.ok h, hs⟩

theorem throw {P : α → β → Prop} {e e' : Error} (h : E e e') :
    RelatedIn F F' S E P (MonadExcept.throw e) (MonadExcept.throw e') :=
  fun _ _ hs _ _ => ⟨.error h, hs⟩

theorem bind {α' β' : Type} {P : α → β → Prop} {Q : α' → β' → Prop} {x : Call σ α} {y : Call τ β}
    {f : α → Call σ α'} {g : β → Call τ β'} (hx : RelatedIn F F' S E P x y)
    (hf : ∀ a, Backs F (f a)) (hg : ∀ b, Backs F' (g b))
    (hfg : ∀ a b, P a b → RelatedIn F F' S E Q (f a) (g b)) :
    RelatedIn F F' S E Q (x >>= f) (y >>= g) := by
  intro s t hs hF hF'
  obtain ⟨hout, hsession⟩ := hx hs (Backs.first hf hF) (Backs.first hg hF')
  rw [runOn_bind] at hF hF' ⊢
  rw [runOn_bind]
  generalize runOn x s = p at hF hout hsession ⊢
  generalize runOn y t = q at hF' hout hsession ⊢
  obtain ⟨r, s'⟩ := p
  obtain ⟨r', t'⟩ := q
  cases hout with
  | ok h => exact hfg _ _ h hsession hF hF'
  | error h => exact ⟨.error h, hsession⟩

theorem mono {P Q : α → β → Prop} {x : Call σ α} {y : Call τ β} (h : RelatedIn F F' S E P x y)
    (hPQ : ∀ a b, P a b → Q a b) : RelatedIn F F' S E Q x y := by
  intro s t hs hF hF'
  obtain ⟨hout, hsession⟩ := h hs hF hF'
  exact ⟨hout.mono hPQ, hsession⟩

/-! ### Functions of the client -/

theorem requireSuccess [Response α] {P : α → α → Prop}
    (hemit : ∀ e, RelatedIn F F' S E (fun _ _ => True) (emit e) (emit e)) (command : Command)
    {a b : α} (h : P a b)
    (hheader : (Response.header a).executionStatus = (Response.header b).executionStatus)
    (hfailed : ∀ status data, E (.commandFailed command status data (Response.toJson a))
      (.commandFailed command status data (Response.toJson b))) :
    RelatedIn F F' S E P (Client.requireSuccess command a) (Client.requireSuccess command b) := by
  unfold Client.requireSuccess
  dsimp only
  rw [← hheader]
  split
  · exact (hemit _).bind (fun _ _ h => h) (fun _ _ h => h) fun _ _ _ => pure h
  · exact (hemit _).bind (fun _ _ h => h) (fun _ _ h => h) fun _ _ _ => throw (hfailed _ _)

theorem bind_noting {α' β' : Type} {P : α → β → Prop} {Q : α' → β' → Prop} (hF : IsPast F)
    (hF' : IsPast F') (hemit : ∀ e, RelatedIn F F' S E (fun _ _ => True) (emit e) (emit e))
    {x : Call σ α} {y : Call τ β} (hxy : RelatedIn F F' S E P x y) {e : α → Event}
    {e' : β → Event} {f : α → Call σ α'} {g : β → Call τ β'} (hf : ∀ a, Extends (f a))
    (hg : ∀ b, Extends (g b)) (hevent : ∀ a b, P a b → e a = e' b)
    (hfg : ∀ a b, P a b → RelatedIn F F' S E Q (f a) (g b)) :
    RelatedIn F F' S E Q (x >>= fun a => emit (e a) >>= fun _ => f a)
      (y >>= fun b => emit (e' b) >>= fun _ => g b) := by
  refine hxy.bind (fun a => hF.backs ((Extends.emit _).bind fun _ => hf a))
    (fun b => hF'.backs ((Extends.emit _).bind fun _ => hg b)) fun a b hab => ?_
  rw [hevent a b hab]
  exact (hemit _).bind (fun _ => hF.backs (hf a)) (fun _ => hF'.backs (hg b)) fun _ _ _ =>
    hfg a b hab

section Activation

variable {c : Client σ} {c' : Client τ} {iccid : String}
  {P : Option ProfileStatus → Option ProfileStatus → Prop}

theorem closing (hF : IsPast F) (hF' : IsPast F')
    (hstatus : RelatedIn F F' S E P (c.getStatus iccid) (c'.getStatus iccid))
    (hemit : ∀ e, RelatedIn F F' S E (fun _ _ => True) (emit e) (emit e))
    (hstate : ∀ p q, P p q → p.map (·.state) = q.map (·.state)) :
    RelatedIn F F' S E P (c.closing iccid) (c'.closing iccid) := by
  have hevent : ∀ p q, P p q → finishedEvent iccid p = finishedEvent iccid q := by
    intro p q hpq
    have hname : p.map (·.state.name) = q.map (·.state.name) := by
      have h := congrArg (Option.map ProfileState.name) (hstate p q hpq)
      rwa [Option.map_map, Option.map_map] at h
    unfold finishedEvent
    rw [hname]
  exact bind_noting hF hF' hemit hstatus (fun p => .pure p) (fun q => .pure q) hevent
    fun _ _ hpq => pure hpq

theorem confirming (hF : IsPast F) (hF' : IsPast F')
    (hconfirm : RelatedIn F F' S E (fun _ _ => True) (c.confirmOrder iccid)
      (c'.confirmOrder iccid))
    (hemit : ∀ e, RelatedIn F F' S E (fun _ _ => True) (emit e) (emit e))
    (hclosing : RelatedIn F F' S E P (c.closing iccid) (c'.closing iccid)) :
    RelatedIn F F' S E P (c.confirming iccid) (c'.confirming iccid) :=
  bind_noting hF hF' hemit hconfirm (fun _ => c.resume_extends iccid .close)
    (fun _ => c'.resume_extends iccid .close) (fun _ _ _ => rfl) fun _ _ _ => hclosing

theorem rechecking (hF : IsPast F) (hF' : IsPast F')
    (hstatus : RelatedIn F F' S E P (c.getStatus iccid) (c'.getStatus iccid))
    (hemit : ∀ e, RelatedIn F F' S E (fun _ _ => True) (emit e) (emit e))
    (hstate : ∀ p q, P p q → p.map (·.state) = q.map (·.state))
    (hconfirming : RelatedIn F F' S E P (c.confirming iccid) (c'.confirming iccid))
    (hclosing : RelatedIn F F' S E P (c.closing iccid) (c'.closing iccid)) :
    RelatedIn F F' S E P (c.rechecking iccid) (c'.rechecking iccid) := by
  have hallocated : ∀ p q, P p q → isAllocated p = isAllocated q := by
    intro p q hpq
    have h := congrArg (Option.any (· == .allocated)) (hstate p q hpq)
    rwa [Option.any_map, Option.any_map] at h
  refine bind_noting hF hF' hemit hstatus (fun p => c.branch_extends iccid (isAllocated p))
    (fun q => c'.branch_extends iccid (isAllocated q)) ?_ ?_
  · intro p q hpq
    rw [hallocated p q hpq]
  · intro p q hpq
    rw [hallocated p q hpq]
    cases isAllocated q with
    | false => exact hclosing
    | true => exact hconfirming

/-- Activations are related if what they are made of is, and if related snapshots have the same
step and the same state. -/
theorem activate (hF : IsPast F) (hF' : IsPast F')
    (hstatus : RelatedIn F F' S E P (c.getStatus iccid) (c'.getStatus iccid))
    (horder : RelatedIn F F' S E (fun _ _ => True) (c.downloadOrder iccid)
      (c'.downloadOrder iccid))
    (hconfirm : RelatedIn F F' S E (fun _ _ => True) (c.confirmOrder iccid)
      (c'.confirmOrder iccid))
    (hemit : ∀ e, RelatedIn F F' S E (fun _ _ => True) (emit e) (emit e))
    (hstep : ∀ p q, P p q → ActivationStep.of p = ActivationStep.of q)
    (hstate : ∀ p q, P p q → p.map (·.state) = q.map (·.state)) :
    RelatedIn F F' S E P (c.activate iccid) (c'.activate iccid) := by
  have hclosing := closing hF hF' hstatus hemit hstate
  have hconfirming := confirming hF hF' hconfirm hemit hclosing
  have hrechecking := rechecking hF hF' hstatus hemit hstate hconfirming hclosing
  rw [Client.activate_eq, Client.activate_eq]
  refine bind_noting hF hF' hemit hstatus (fun _ => c.resume_extends iccid _)
    (fun _ => c'.resume_extends iccid _) ?_ ?_
  · intro p q hpq
    rw [hstep p q hpq]
  · intro p q hpq
    rw [hstep p q hpq]
    cases ActivationStep.of q with
    | needsDownload =>
      exact horder.bind (fun _ => hF.backs (c.resume_extends iccid .recheck))
        (fun _ => hF'.backs (c'.resume_extends iccid .recheck)) fun _ _ _ => hrechecking
    | needsConfirm => exact hconfirming
    | provisioned => exact hclosing
    | unknown => exact hclosing

end Activation

/-! ### Runs of calls -/

theorem performAll {c : Client σ} {c' : Client τ}
    {P : (op : Operation) → op.Result → op.Result → Prop} (hF : IsPast F) (hF' : IsPast F')
    (h : ∀ op, RelatedIn F F' S E (P op) (c.perform op) (c'.perform op)) (ops : List Operation)
    {s : Session σ} {t : Session τ} (hs : S s t) (hend : F (c.performAll ops s))
    (hend' : F' (c'.performAll ops t)) : S (c.performAll ops s) (c'.performAll ops t) := by
  induction ops generalizing s t with
  | nil => exact hs
  | cons op ops ih =>
    have hfirst := hF (c.performAll_extends ops _) hend
    have hfirst' := hF' (c'.performAll_extends ops _) hend'
    exact ih (h op hs hfirst hfirst').2 hend hend'

end RelatedIn

/-! ## Without a bound -/

/-- Two calls that take sessions related by `S` to the same outcome, and to sessions related
by `S`. -/
def Related (S : Session σ → Session τ → Prop) (E : Error → Error → Prop) (P : α → β → Prop)
    (x : Call σ α) (y : Call τ β) : Prop :=
  ∀ ⦃s t⦄, S s t → SameOutcome E P (runOn x s).1 (runOn y t).1 ∧ S (runOn x s).2 (runOn y t).2

theorem related_iff {S : Session σ → Session τ → Prop} {E : Error → Error → Prop}
    {P : α → β → Prop} {x : Call σ α} {y : Call τ β} :
    Related S E P x y ↔ RelatedIn (fun _ => True) (fun _ => True) S E P x y :=
  ⟨fun h _ _ hs _ _ => h hs, fun h _ _ hs => h hs trivial trivial⟩

namespace Related

variable {S : Session σ → Session τ → Prop} {E : Error → Error → Prop}

theorem pure {P : α → β → Prop} {a : α} {b : β} (h : P a b) :
    Related S E P (Pure.pure a) (Pure.pure b) :=
  fun _ _ hs => ⟨.ok h, hs⟩

theorem throw {P : α → β → Prop} {e e' : Error} (h : E e e') :
    Related S E P (MonadExcept.throw e) (MonadExcept.throw e') :=
  fun _ _ hs => ⟨.error h, hs⟩

theorem bind {α' β' : Type} {P : α → β → Prop} {Q : α' → β' → Prop} {x : Call σ α} {y : Call τ β}
    {f : α → Call σ α'} {g : β → Call τ β'} (hx : Related S E P x y)
    (hf : ∀ a b, P a b → Related S E Q (f a) (g b)) : Related S E Q (x >>= f) (y >>= g) :=
  related_iff.mpr <| (related_iff.mp hx).bind (fun _ _ _ => trivial) (fun _ _ _ => trivial)
    fun a b hab => related_iff.mp (hf a b hab)

theorem mono {P Q : α → β → Prop} {x : Call σ α} {y : Call τ β} (h : Related S E P x y)
    (hPQ : ∀ a b, P a b → Q a b) : Related S E Q x y :=
  related_iff.mpr ((related_iff.mp h).mono hPQ)

theorem requireSuccess [Response α] {P : α → α → Prop}
    (hemit : ∀ e, Related S E (fun _ _ => True) (emit e) (emit e)) (command : Command) {a b : α}
    (h : P a b)
    (hheader : (Response.header a).executionStatus = (Response.header b).executionStatus)
    (hfailed : ∀ status data, E (.commandFailed command status data (Response.toJson a))
      (.commandFailed command status data (Response.toJson b))) :
    Related S E P (Client.requireSuccess command a) (Client.requireSuccess command b) :=
  related_iff.mpr <|
    RelatedIn.requireSuccess (fun e => related_iff.mp (hemit e)) command h hheader hfailed

theorem activate {c : Client σ} {c' : Client τ} {iccid : String}
    {P : Option ProfileStatus → Option ProfileStatus → Prop}
    (hstatus : Related S E P (c.getStatus iccid) (c'.getStatus iccid))
    (horder : Related S E (fun _ _ => True) (c.downloadOrder iccid) (c'.downloadOrder iccid))
    (hconfirm : Related S E (fun _ _ => True) (c.confirmOrder iccid) (c'.confirmOrder iccid))
    (hemit : ∀ e, Related S E (fun _ _ => True) (emit e) (emit e))
    (hstep : ∀ p q, P p q → ActivationStep.of p = ActivationStep.of q)
    (hstate : ∀ p q, P p q → p.map (·.state) = q.map (·.state)) :
    Related S E P (c.activate iccid) (c'.activate iccid) :=
  related_iff.mpr <| RelatedIn.activate (fun _ _ _ _ => trivial) (fun _ _ _ _ => trivial)
    (related_iff.mp hstatus) (related_iff.mp horder) (related_iff.mp hconfirm)
    (fun e => related_iff.mp (hemit e)) hstep hstate

/-! ### Runs of calls -/

theorem performAll {c : Client σ} {c' : Client τ}
    {P : (op : Operation) → op.Result → op.Result → Prop}
    (h : ∀ op, Related S E (P op) (c.perform op) (c'.perform op)) (ops : List Operation)
    {s : Session σ} {t : Session τ} (hs : S s t) :
    S (c.performAll ops s) (c'.performAll ops t) :=
  RelatedIn.performAll (fun _ _ _ _ => trivial) (fun _ _ _ _ => trivial)
    (fun op => related_iff.mp (h op)) ops hs trivial trivial

end Related

end Provisioning.Es2
