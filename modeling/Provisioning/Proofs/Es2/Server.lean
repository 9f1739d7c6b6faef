import Provisioning.Proofs.Es2.Document
import Provisioning.Proofs.Es2.Activation
/-!
# A server with one profile

A server holds at most one profile. Orders move it from available over allocated to released; the
line to the server may lose what goes over it.

* `Record` : what the server holds of the profile; `Record.snapshot` is what a poll tells of it;
* `Smdp` : the laws of such a server; nothing is said of an order for a profile in another state;
* `Smdp.Passes`, `Smdp.Line` : what can become of a request on the way to the server and back;
* `Smdp.line_self` : a line that loses nothing;
* `compactTransport` : a server that answers with compact documents; it obeys the laws
  (`Smdp.compact`);
* `Transport.losing` : a line that loses some of the requests.
-/

namespace Provisioning.Es2

variable {σ α : Type}

/-! ## Records -/

structure Record where
  state : String
  acToken : String
  lastUpdate : String
  eid : String
  iccid : String
  lockFlag : Bool
  deriving DecidableEq

namespace Record

def snapshot (r : Record) : ProfileStatus where
  lastUpdate := r.lastUpdate
  acToken := r.acToken
  state := .ofName r.state
  eid := r.eid
  iccid := r.iccid
  lockFlag := r.lockFlag

def allocated (r : Record) (token : String) : Record :=
  { r with state := "ALLOCATED", acToken := token }

def released (r : Record) (token : String) : Record :=
  { r with state := "RELEASED", acToken := token }

/-- There is no activation code, and the state is one that activation takes further. -/
def NeedsOrder (r : Record) : Prop :=
  r.acToken = "" ∧ (r.state = "AVAILABLE" ∨ r.state = "ALLOCATED")

@[simp] theorem allocated_state (r : Record) (token : String) :
    (r.allocated token).state = "ALLOCATED" := rfl

@[simp] theorem released_state (r : Record) (token : String) :
    (r.released token).state = "RELEASED" := rfl

@[simp] theorem released_allocated (r : Record) (token code : String) :
    (r.allocated token).released code = r.released code := rfl

theorem snapshot_isNamed (r : Record) : r.snapshot.IsNamed := ⟨r.state, rfl⟩

theorem snapshot_available_iff (r : Record) :
    r.snapshot.state = .available ↔ r.state = "AVAILABLE" :=
  ProfileState.ofName_eq_iff (by decide) r.state

theorem snapshot_allocated_iff (r : Record) :
    r.snapshot.state = .allocated ↔ r.state = "ALLOCATED" :=
  ProfileState.ofName_eq_iff (by decide) r.state

end Record

/-! ## Servers -/

/-- A reply that is read as a response of success, and what holds of the response. -/
def Tells [Response α] (p : α → Prop) (r : Except Error Reply) : Prop :=
  ∃ reply response, r = .ok reply ∧ Json.decode Response.decoder reply.body = .ok response ∧
    isSuccess response = true ∧ p response

/-- The reply to a request, and the state that the server is left in. -/
def Transport.send (t : Transport σ) (request : Request) (h : RequestHeader) (s : σ) :
    Except Error Reply × σ :=
  ((t.post request.command (request.body h).compact s).1.1,
    (t.post request.command (request.body h).compact s).2)

/-- A server with at most one profile with an ICCID, behind a transport. -/
structure Smdp (t : Transport σ) (iccid : String) where
  record : σ → Option Record
  /-- The activation code that an order leaves. -/
  token : String
  polled (h : RequestHeader) (s : σ) :
    Tells (fun response : ProfileStatusResponse =>
        response.profiles = ((record s).map Record.snapshot).toList)
      (t.send (.getProfileStatus iccid) h s).1 ∧
    record (t.send (.getProfileStatus iccid) h s).2 = record s
  ordered (h : RequestHeader) {s : σ} {r : Record} (hr : record s = some r)
      (hstate : r.state = "AVAILABLE") :
    Tells (fun _ : DownloadOrderResponse => True) (t.send (.downloadOrder iccid) h s).1 ∧
    record (t.send (.downloadOrder iccid) h s).2 = some (r.allocated token)
  confirmed (h : RequestHeader) {s : σ} {r : Record} (hr : record s = some r)
      (hstate : r.state = "ALLOCATED") :
    Tells (fun _ : ConfirmOrderResponse => True) (t.send (.confirmOrder iccid) h s).1 ∧
    ∃ code, code ≠ "" ∧ record (t.send (.confirmOrder iccid) h s).2 = some (r.released code)

namespace Smdp

variable {t : Transport σ} {iccid : String}

/-- What can become of a request, and the state that the server is left in. -/
inductive Passes (S : Smdp t iccid) (request : Request) (h : RequestHeader) (s : σ) :
    Except Error Reply × σ → Prop
  | served {s' : σ} (hrecord : S.record s' = S.record (t.send request h s).2) :
      Passes S request h s ((t.send request h s).1, s')
  | lostRequest {e : Error} {s' : σ} (hrecord : S.record s' = S.record s) :
      Passes S request h s (.error e, s')
  | lostReply {e : Error} {s' : σ} (hrecord : S.record s' = S.record (t.send request h s).2) :
      Passes S request h s (.error e, s')
  /-- The server says that it did not confirm the order, and has not. -/
  | refused {reply : Reply} {response : ConfirmOrderResponse} {s' : σ}
      (hcommand : request.command = .confirmOrder)
      (hread : Json.decode Response.decoder reply.body = .ok response)
      (hfail : isSuccess response = false) (hrecord : S.record s' = S.record s) :
      Passes S request h s (.ok reply, s')

/-- A transport that takes requests to the server, or loses them or the replies. -/
def Line (S : Smdp t iccid) (line : Transport σ) : Prop :=
  ∀ request h s, S.Passes request h s (line.send request h s)

theorem line_self (S : Smdp t iccid) : S.Line t := fun _ _ _ => .served rfl

end Smdp

/-! ## A server that answers with compact documents -/

def replyOf [Response α] (a : α) : Reply where
  status := 200
  adminProtocol := some adminProtocol
  body := Utf8.encodeText (Response.toJson a).compact

def executedHeader : ResponseHeader := { executionStatus := { status := executedSuccess } }

/-- The reply to a command, and the profile behind it. -/
def compactReply (token code : String) : Command → Option Record → Reply × Option Record
  | .getProfileStatus, q =>
    (replyOf ({ header := executedHeader, profiles := (q.map Record.snapshot).toList } :
      ProfileStatusResponse), q)
  | .downloadOrder, q =>
    (replyOf ({ header := executedHeader } : DownloadOrderResponse),
      q.map fun r => if r.state = "AVAILABLE" then r.allocated token else r)
  | .confirmOrder, q =>
    (replyOf ({ header := executedHeader } : ConfirmOrderResponse),
      q.map fun r => if r.state = "ALLOCATED" then r.released code else r)
  | .recoverProfile, q => (replyOf ({ header := executedHeader } : RecoverProfileResponse), q)
  | .cancelOrder, q => (replyOf ({ header := executedHeader } : CancelOrderResponse), q)

/-- The server's state is its profile. -/
def compactTransport (token code : String) : Transport (Option Record) where
  post command _ := fun q =>
    ((.ok (compactReply token code command q).1, []), (compactReply token code command q).2)

theorem tells_replyOf [Response α] {a : α} {p : α → Prop} (hreads : Reads a)
    (hsuccess : isSuccess a = true) (hp : p a) : Tells p (.ok (replyOf a)) :=
  ⟨replyOf a, a, rfl, hreads, hsuccess, hp⟩

def Smdp.compact (token code iccid : String) (hcode : code ≠ "") :
    Smdp (compactTransport token code) iccid where
  record := id
  token
  polled _ q := by
    refine ⟨tells_replyOf (ProfileStatusResponse.reads ?_) rfl rfl, rfl⟩
    intro p hp
    obtain ⟨r, -, rfl⟩ := Option.map_eq_some_iff.mp (Option.mem_toList.mp hp)
    exact r.snapshot_isNamed
  ordered _ q r hr hstate := by
    obtain rfl : q = some r := hr
    refine ⟨tells_replyOf (DownloadOrderResponse.reads _) rfl trivial, ?_⟩
    exact congrArg some (if_pos hstate)
  confirmed _ q r hr hstate := by
    obtain rfl : q = some r := hr
    refine ⟨tells_replyOf (ConfirmOrderResponse.reads _) rfl trivial, code, hcode, ?_⟩
    exact congrArg some (if_pos hstate)

/-! ## A line that loses requests -/

/-- Requests are lost where `lost` says so, and the rest is passed on. -/
def Transport.losing (t : Transport σ) (lost : Command → σ → Bool) (e : Error) : Transport σ where
  post command body := fun s =>
    if lost command s then ((.error e, []), s) else t.post command body s

theorem Transport.send_losing (t : Transport σ) (lost : Command → σ → Bool) (e : Error)
    (request : Request) (h : RequestHeader) (s : σ) :
    (t.losing lost e).send request h s =
      if lost request.command s then (.error e, s) else t.send request h s := by
  unfold losing send
  dsimp only
  split_ifs <;> rfl

theorem Smdp.line_losing {t : Transport σ} {iccid : String} (S : Smdp t iccid)
    (lost : Command → σ → Bool) (e : Error) : S.Line (t.losing lost e) := by
  intro request h s
  rw [t.send_losing]
  by_cases hlost : lost request.command s = true
  · rw [if_pos hlost]
    exact .lostRequest rfl
  · rw [if_neg hlost]
    exact .served rfl

end Provisioning.Es2
