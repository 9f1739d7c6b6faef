import Provisioning.Log
import Provisioning.Es2.CallId
import Provisioning.Es2.Error
/-!
# Sessions

A session is all that a run of calls sees and leaves behind.

* `Reply` : what a server sends back to a post;
* `Transport σ` : carries posts to a server that is in a state of type `σ`;
* `Session σ` : the server's state, the identifiers drawn, the posts and the log;
* `Call σ` : a computation in a session that may fail; what it did before stays done;
* `emit`, `draw`, `post` : the steps that calls are made of;
* `Transport.replay` : a transport that answers from a list.
-/

namespace Provisioning.Es2

structure Reply where
  status : Nat
  /-- The protocol that the server says it speaks. -/
  adminProtocol : Option String
  body : List UInt8
  deriving DecidableEq, Repr

structure Transport (σ : Type) where
  post : Command → String → StateM σ (Except Error Reply × List Event)

structure Session (σ : Type) where
  remote : σ
  draws : Nat
  posted : List (Command × String)
  events : List Event

def Session.start {σ : Type} (remote : σ) : Session σ := ⟨remote, 0, [], []⟩

abbrev Call (σ : Type) := ExceptT Error (StateM (Session σ))

variable {σ : Type}

def emit (e : Event) : Call σ Unit := modify fun s => { s with events := s.events ++ [e] }

/-- Draws the next identifier; a draw that fails counts. -/
def draw (ids : CallIds) : Call σ String := do
  let s ← get
  set { s with draws := s.draws + 1 }
  match ids s.draws with
  | .ok id => return id
  | .error why => throw (.callId why)

def post (t : Transport σ) (command : Command) (body : String) : Call σ Reply := do
  let s ← get
  let ((result, events), remote) := (t.post command body).run s.remote
  set { s with
    remote
    posted := s.posted ++ [(command, body)]
    events := s.events ++ events }
  match result with
  | .ok reply => return reply
  | .error e => throw e

/-- Answers from a list; with no answer left, every post fails with `exhausted`. -/
def Transport.replay (exhausted : Error) : Transport (List (Except Error Reply)) where
  post _ _ := fun
    | [] => ((.error exhausted, []), [])
    | r :: rest => ((r, []), rest)

end Provisioning.Es2
