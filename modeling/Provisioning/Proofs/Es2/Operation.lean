import Provisioning.Proofs.Es2.Activation
/-!
# Runs of calls

A caller makes calls on one client, one after another; a call that fails does not end the run.

* `Operation` : the calls that a caller can make, with their arguments; `Operation.request` is what
  each asks first;
* `Client.perform`, `Client.performAll` : a call, and a run of calls;
* `Conducted` : the exchanges of a call; a draw that fails ends the call with its error;
* `Client.perform_conducted` : this holds of every call.
-/

namespace Provisioning.Es2

variable {σ α : Type}

/-! ## Calls and runs of calls -/

inductive Operation
  | getStatus (iccid : String)
  | recoverProfile (iccid target : String)
  | cancelOrder (iccid target : String)
  | downloadOrder (iccid : String)
  | confirmOrder (iccid : String)
  | activate (iccid : String)

abbrev Operation.Result : Operation → Type
  | getStatus _ | activate _ => Option ProfileStatus
  | recoverProfile _ _ => RecoverProfileResponse
  | cancelOrder _ _ => CancelOrderResponse
  | downloadOrder _ => DownloadOrderResponse
  | confirmOrder _ => ConfirmOrderResponse

/-- What is asked first in a call. -/
def Operation.request : Operation → Request
  | getStatus iccid | activate iccid => .getProfileStatus iccid
  | recoverProfile iccid target => .recoverProfile iccid target
  | cancelOrder iccid target => .cancelOrder iccid target
  | downloadOrder iccid => .downloadOrder iccid
  | confirmOrder iccid => .confirmOrder iccid

namespace Client

def perform (c : Client σ) : (op : Operation) → Call σ op.Result
  | .getStatus iccid => c.getStatus iccid
  | .recoverProfile iccid target => c.recoverProfile iccid target
  | .cancelOrder iccid target => c.cancelOrder iccid target
  | .downloadOrder iccid => c.downloadOrder iccid
  | .confirmOrder iccid => c.confirmOrder iccid
  | .activate iccid => c.activate iccid

/-- The session behind a run of calls, each in the session that the one before left. -/
def performAll (c : Client σ) : List Operation → Session σ → Session σ
  | [], s => s
  | op :: ops, s => c.performAll ops (runOn (c.perform op) s).2

end Client

/-! ## Exchanges one behind the other -/

theorem Exchange.Happens.of_draw_error {c : Client σ} {x : Exchange} {s t : Session σ}
    {why : String} (h : x.Happens c s t) (hdraw : c.callIds s.draws = .error why) :
    x.posts = [] ∧ x.reply = .error (.callId why) := by
  cases h with
  | undrawn hcall hdraws hposted hremote =>
    cases hcall.symm.trans hdraw
    exact ⟨rfl, rfl⟩
  | posted hcall hdraws hposted hpost => cases hcall.symm.trans hdraw

namespace Exchanges

variable {c : Client σ} {xs : List Exchange} {s u : Session σ}

theorem draws (h : Exchanges c xs s u) : u.draws = s.draws + xs.length := by
  induction h with
  | nil => rfl
  | cons hx _ ih => rw [ih, hx.draws, List.length_cons, Nat.add_assoc, Nat.add_comm 1]

theorem split {front back : List Exchange} {x : Exchange}
    (h : Exchanges c (front ++ x :: back) s u) :
    ∃ t t', Exchanges c front s t ∧ x.Happens c t t' ∧ Exchanges c back t' u := by
  induction front generalizing s with
  | nil =>
    cases h with
    | cons hx hback => exact ⟨s, _, .nil, hx, hback⟩
  | cons y front ih =>
    cases h with
    | cons hy hrest =>
      obtain ⟨t, t', hfront, hx, hback⟩ := ih hrest
      exact ⟨t, t', .cons hy hfront, hx, hback⟩

end Exchanges

/-! ## The exchanges of a call -/

/-- The exchanges of a call in a session. Each draws one identifier and posts with it. When a draw
fails, nothing is posted from then on and the call ends with that error. -/
structure Conducted (c : Client σ) (call : Call σ α) (s : Session σ) (xs : List Exchange) :
    Prop where
  exchanges : Exchanges c xs s (runOn call s).2
  draws : (runOn call s).2.draws = s.draws + xs.length
  posted : (runOn call s).2.posted = s.posted ++ xs.flatMap (·.posts)
  undrawn : ∀ front x back why, xs = front ++ x :: back →
    c.callIds (s.draws + front.length) = .error why →
    x.posts = [] ∧ back = [] ∧ (runOn call s).1 = .error (.callId why)

section Conducted

variable {c : Client σ} {call : Call σ α} {s t : Session σ} {result : Except Error α}

/-- Exchanges make up a call if the first that gets no reply is the last and ends the call. -/
theorem Exchanges.conducted {xs : List Exchange} (h : Exchanges c xs s t)
    (hrun : runOn call s = (result, t))
    (hfails : ∀ front x back e, xs = front ++ x :: back → x.reply = .error e →
      back = [] ∧ result = .error e) : Conducted c call s xs := by
  constructor <;> rw [hrun]
  · exact h
  · exact h.draws
  · exact h.posted
  · intro front x back why hxs hdraw
    obtain ⟨u, u', hfront, hx, -⟩ := (hxs ▸ h).split
    rw [← hfront.draws] at hdraw
    obtain ⟨hposts, hreply⟩ := hx.of_draw_error hdraw
    exact ⟨hposts, hfails front x back _ hxs hreply⟩

theorem Exchange.Happens.conducted {x : Exchange} (h : x.Happens c s t)
    (hrun : runOn call s = (result, t)) (hfails : ∀ e, x.reply = .error e → result = .error e) :
    Conducted c call s [x] := by
  refine (Exchanges.cons h .nil).conducted hrun fun front y back e hxs hy => ?_
  rcases front with - | ⟨z, front⟩
  · cases hxs
    exact ⟨rfl, hfails e hy⟩
  · exact absurd (List.cons.inj hxs).2.symm (List.append_ne_nil_of_right_ne_nil _ (by simp))

end Conducted

namespace Client

theorem execute_conducted [Response α] (c : Client σ) (request : Request) (s : Session σ) :
    ∃ x more, x.request = request ∧
      Conducted c (c.execute request : Call σ α) s (x :: more) := by
  obtain ⟨x, t, hreq, hx, hrun⟩ := c.execute_happens (α := α) request s
  exact ⟨x, [], hreq, hx.conducted hrun fun e he => by rw [he]; rfl⟩

theorem execute_requireSuccess_conducted [Response α] (c : Client σ) (request : Request)
    (s : Session σ) :
    ∃ x more, x.request = request ∧
      Conducted c (c.execute request >>= requireSuccess request.command : Call σ α) s
        (x :: more) := by
  obtain ⟨x, t, hreq, hx, hrun⟩ := c.execute_requireSuccess_happens (α := α) request s
  exact ⟨x, [], hreq, hx.conducted hrun fun e he => by rw [he]; rfl⟩

theorem getStatus_conducted (c : Client σ) (iccid : String) (s : Session σ) :
    ∃ x more, x.request = .getProfileStatus iccid ∧
      Conducted c (c.getStatus iccid) s (x :: more) := by
  obtain ⟨x, t, hreq, hx, hrun⟩ := c.getStatus_happens iccid s
  exact ⟨x, [], hreq, hx.conducted hrun fun e he => Exchange.result_of_error he⟩

theorem activate_conducted (c : Client σ) (iccid : String) (s : Session σ) :
    ∃ x more, x.request = .getProfileStatus iccid ∧
      Conducted c (c.activate iccid) s (x :: more) := by
  obtain ⟨xs, last, t, hwalk, hrun⟩ := c.resume_walks iccid .check s
  have hconducted : Conducted c (c.activate iccid) s (xs ++ [last]) := by
    refine hwalk.exchanges.conducted hrun fun front y back e hxs hy => ?_
    have hresult : y.result = .error e := Exchange.result_of_error hy
    obtain rfl := hwalk.eq_nil_of_error hxs hresult
    obtain ⟨-, hlast⟩ := List.append_inj' hxs rfl
    cases hlast
    exact ⟨rfl, hresult⟩
  obtain ⟨x, more, hxs⟩ := hwalk.exists_cons
  rw [hxs] at hwalk hconducted
  obtain ⟨-, hreq, -⟩ := hwalk.cons_cases
  exact ⟨x, more, hreq, hconducted⟩

theorem perform_conducted (c : Client σ) (op : Operation) (s : Session σ) :
    ∃ x more, x.request = op.request ∧ Conducted c (c.perform op) s (x :: more) := by
  cases op with
  | getStatus iccid => exact c.getStatus_conducted iccid s
  | recoverProfile iccid target => exact c.execute_conducted (.recoverProfile iccid target) s
  | cancelOrder iccid target => exact c.execute_conducted (.cancelOrder iccid target) s
  | downloadOrder iccid => exact c.execute_requireSuccess_conducted (.downloadOrder iccid) s
  | confirmOrder iccid => exact c.execute_requireSuccess_conducted (.confirmOrder iccid) s
  | activate iccid => exact c.activate_conducted iccid s

end Client

end Provisioning.Es2
