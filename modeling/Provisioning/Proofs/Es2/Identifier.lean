import Mathlib.Data.List.Nodup
import Provisioning.Proofs.Es2.Operation
import Provisioning.Proofs.Es2.Request
import Provisioning.Proofs.Text.Decimal
/-!
# The identifiers of a run of calls

Every identifier that is drawn is posted once, in the order of the draws.

* `Session.headers` : the headers that are read from the bodies posted;
* `Client.drawn` : the identifiers that the first draws gave;
* `Identified` : the headers have the identifiers drawn, and name the client's requester;
* `Exchange.Happens.identified`, `Exchanges.identified` : exchanges keep this;
* `Client.Distinct` : the source gives no identifier twice;
* `Client.performAll_identified` : a run of calls posts what it draws, and nothing else.
-/

namespace Provisioning.Es2

variable {σ : Type}

/-- The headers that are read from the bodies posted. -/
def Session.headers (s : Session σ) : List (Option RequestHeader) :=
  s.posted.map fun p => headerOf? p.2

namespace Client

def callId? (c : Client σ) (n : Nat) : Option String := (c.callIds n).toOption

theorem callId?_eq_some_iff {c : Client σ} {n : Nat} {callId : String} :
    c.callId? n = some callId ↔ c.callIds n = .ok callId := by
  unfold callId?
  cases c.callIds n with
  | error why => exact iff_of_false (fun h => by cases h) (fun h => by cases h)
  | ok other => exact Option.some_inj.trans (iff_of_eq (Except.ok.injEq other callId).symm)

/-- The identifiers that the first draws gave. -/
def drawn (c : Client σ) (n : Nat) : List String := (List.range n).filterMap c.callId?

theorem drawn_succ (c : Client σ) (n : Nat) :
    c.drawn (n + 1) = c.drawn n ++ (c.callId? n).toList := by
  rw [drawn, List.range_succ, List.filterMap_append]
  cases h : c.callId? n with
  | none => rw [List.filterMap_cons_none h]; rfl
  | some callId => rw [List.filterMap_cons_some h]; rfl

theorem drawn_succ_of_error {c : Client σ} {n : Nat} {why : String}
    (h : c.callIds n = .error why) : c.drawn (n + 1) = c.drawn n := by
  rw [drawn_succ, callId?, h]
  exact List.append_nil _

theorem drawn_succ_of_ok {c : Client σ} {n : Nat} {callId : String}
    (h : c.callIds n = .ok callId) : c.drawn (n + 1) = c.drawn n ++ [callId] := by
  rw [drawn_succ, callId?_eq_some_iff.mpr h]
  rfl

/-- The source gives no identifier twice. -/
def Distinct (c : Client σ) : Prop :=
  ∀ m n callId, c.callIds m = .ok callId → c.callIds n = .ok callId → m = n

theorem Distinct.nodup_drawn {c : Client σ} (h : c.Distinct) (n : Nat) : (c.drawn n).Nodup := by
  refine List.Nodup.filterMap (fun i j callId hi hj => ?_) List.nodup_range
  exact h i j callId (callId?_eq_some_iff.mp hi) (callId?_eq_some_iff.mp hj)

end Client

/-- What is posted has the identifiers drawn, in order, and names the client's requester. -/
def Identified (c : Client σ) (s : Session σ) : Prop :=
  s.headers = (c.drawn s.draws).map fun callId => some ⟨c.requesterId, callId⟩

theorem identified_start (c : Client σ) (remote : σ) : Identified c (.start remote) := rfl

theorem Exchange.Happens.identified {c : Client σ} {x : Exchange} {s t : Session σ}
    (h : x.Happens c s t) (hs : Identified c s) : Identified c t := by
  unfold Identified Session.headers at hs ⊢
  cases h with
  | undrawn hdraw hdraws hposted hremote =>
    rw [hposted, hs, hdraws, Client.drawn_succ_of_error hdraw]
  | @posted request _ _ callId _ _ hdraw hdraws hposted hpost =>
    have hheader : headerOf? (c.bodyOf request callId) = some ⟨c.requesterId, callId⟩ :=
      request.headerOf?_body _
    rw [hposted, hdraws, Client.drawn_succ_of_ok hdraw, List.map_append, List.map_append, hs,
      List.map_singleton, List.map_singleton, hheader]

theorem Exchanges.identified {c : Client σ} {xs : List Exchange} {s u : Session σ}
    (h : Exchanges c xs s u) (hs : Identified c s) : Identified c u := by
  induction h with
  | nil => exact hs
  | cons hx _ ih => exact ih (hx.identified hs)

namespace Identified

variable {c : Client σ} {s : Session σ}

theorem performAll (hs : Identified c s) (ops : List Operation) :
    Identified c (c.performAll ops s) := by
  induction ops generalizing s with
  | nil => exact hs
  | cons op ops ih =>
    obtain ⟨x, more, -, hop⟩ := c.perform_conducted op s
    exact ih (hop.exchanges.identified hs)

theorem nodup_callIds (hs : Identified c s) (hdistinct : c.Distinct) :
    (s.headers.map (Option.map RequestHeader.callId)).Nodup := by
  rw [hs, List.map_map]
  exact (hdistinct.nodup_drawn s.draws).map fun _ _ => Option.some.inj

end Identified

/-- In a run of calls, whatever they ask, the bodies posted have the identifiers drawn, in order,
and each names the client's requester. Every call draws for what it asks first; a draw that fails
ends its call, with its error and without a post behind it. If the source gives no identifier twice,
no two bodies have the same one. -/
theorem Client.performAll_identified (c : Client σ) (ops : List Operation) (remote : σ) :
    Identified c (c.performAll ops (.start remote)) ∧
      (∀ op s, ∃ x more, x.request = op.request ∧ Conducted c (c.perform op) s (x :: more)) ∧
      (c.Distinct →
        ((c.performAll ops (.start remote)).headers.map (Option.map RequestHeader.callId)).Nodup) := by
  have hrun := (identified_start c remote).performAll ops
  exact ⟨hrun, c.perform_conducted, hrun.nodup_callIds⟩

/-- A client whose source fails once. -/
def Client.faltering : Client (List (Except Error Reply)) :=
  { scarce with callIds := fun n => if n = 1 then .error "entropy unavailable" else .ok n.repr }

theorem Client.faltering_distinct : faltering.Distinct := by
  have hvalue : ∀ n callId, faltering.callIds n = .ok callId →
      Decimal.value callId.toList = n := by
    intro n callId h
    simp only [faltering] at h
    split at h
    · cases h
    · rw [← Except.ok.inj h, Decimal.toList_repr, Decimal.value_render]
  intro m n callId hm hn
  rw [← hvalue m callId hm, hvalue n callId hn]

/-- Behind an activation that ends without an identifier, the next call has one of its own. -/
theorem Client.faltering_identified :
    ((faltering.performAll [.activate "1", .cancelOrder "1" "AVAILABLE"]
      (.start [.ok availableReply])).headers =
        [some ⟨"requester", "0"⟩, some ⟨"requester", "2"⟩]) ∧
    ((faltering.performAll [.activate "1", .cancelOrder "1" "AVAILABLE"]
      (.start [.ok availableReply])).headers.map (Option.map RequestHeader.callId)).Nodup :=
  ⟨by decide +kernel, (faltering.performAll_identified _ _).2.2 faltering_distinct⟩

end Provisioning.Es2
