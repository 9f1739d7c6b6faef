import Provisioning.Batch.Csv
import Provisioning.Settings.Storage
import Provisioning.Cli.Invocation
import Provisioning.Es2.Activation
import Provisioning.Es2.Https
/-!
# Running a command line

* `Surroundings` : the files, the servers and the identifiers that a run has to do with;
* `Failure` : why a task is not done; `Failure.message` is the text for the operator;
* `perform` : does a task, and says what to print;
* `Outcome` : what a run leaves behind;
* `run` : carries out a command line.

Settings are loaded before anything else, a connection is resolved before the credentials are read,
and the credentials are read before anything is posted.
-/

namespace Provisioning.Cli

structure Surroundings (m : Type → Type) (σ : Type) where
  files : FileSystem m
  endpoint : Es2.Endpoint σ
  callIds : Es2.CallIds
  configDirectory : Option String

inductive Failure
  | log (path : String)
  | settings (fault : Settings.Fault)
  | missing (setting : MissingSetting)
  /-- A settings file stands where one is to be made. -/
  | occupied (path : String)
  | batch (rejection : Batch.Rejection)
  | call (error : Es2.Error)
  deriving Repr

def Failure.message : Failure → String
  | log path => "Failed to initialize logging: " ++ path ++ ": the file cannot be opened"
  | settings fault => fault.message
  | missing setting => "Configuration error: " ++ setting.message
  | occupied path =>
    "Configuration error: " ++ path ++ " already exists. Use --force to overwrite it."
  | batch rejection => "Invalid batch: " ++ rejection.message
  | call error => "ES2+ error: " ++ error.message

structure Progress (σ : Type) where
  remote : σ
  events : List Event

abbrev Work (m : Type → Type) (σ : Type) := ExceptT Failure (StateT (Progress σ) m)

variable {m : Type → Type} [Monad m] {σ α : Type}

namespace Work

def report (es : List Event) : Work m σ Unit :=
  modify fun p => { p with events := p.events ++ es }

def ofFiles (act : m α) : Work m σ α := ExceptT.lift (StateT.lift act)

def ofExcept {ε : Type} (failure : ε → Failure) : Except ε α → Work m σ α
  | .ok a => return a
  | .error e => throw (failure e)

/-- A step that may fail and reports events. -/
def step {ε : Type} (failure : ε → Failure) (act : m (Except ε α × List Event)) : Work m σ α := do
  let (result, events) ← ofFiles act
  report events
  ofExcept failure result

/-- A call in a session of its own. -/
def ofCall (call : Es2.Call σ α) : Work m σ α := do
  let p ← get
  let (result, s) := call.run.run (.start p.remote)
  set { remote := s.remote, events := p.events ++ s.events : Progress σ }
  ofExcept .call result

end Work

/-! ## Tasks -/

namespace Surroundings

/-- The settings file: the one that is asked for, or the one of the user. -/
def settingsPath? (w : Surroundings m σ) (c : Common) : Option String :=
  c.settingsPath.or (w.configDirectory.map Settings.defaultPath)

/-- Without a directory for settings, the defaults hold. -/
def loadSettings (w : Surroundings m σ) (c : Common) : Work m σ Settings :=
  match w.settingsPath? c with
  | some path => .step .settings (Settings.load w.files path)
  | none => return {}

def namedPath (w : Surroundings m σ) (c : Common) : Work m σ String :=
  match w.settingsPath? c with
  | some path => return path
  | none => throw (.settings .noDirectory)

end Surroundings

def statusLine (iccid : String) : Option Es2.ProfileStatus → String
  | some p =>
    "iccid='" ++ p.iccid ++ "', state='" ++ p.state.name ++ "', acToken='" ++ p.acToken ++ "'\n"
  | none => "iccid='" ++ iccid ++ "': no such profile\n"

/-- What a server made of a call, with the target of the call if it has one. -/
def responseLine [Es2.Response α] (command : Es2.Command) (iccid : String)
    (target : Option Es2.ProfileState) (response : α) : String :=
  let aim := match target with
    | some s => " target='" ++ s.name ++ "'"
    | none => ""
  command.name ++ " iccid='" ++ iccid ++ "'" ++ aim ++ ": "
    ++ (Es2.Response.header response).executionStatus.status ++ "\n"

/-- Makes a call, and says what to print. -/
def ProfileCall.perform (c : Es2.Client σ) (iccid : String) : ProfileCall → Es2.Call σ String
  | getStatus => return statusLine iccid (← c.getStatus iccid)
  | recoverProfile target =>
    return responseLine .recoverProfile iccid target (← c.recoverProfile iccid target.name)
  | cancelOrder target =>
    return responseLine .cancelOrder iccid target (← c.cancelOrder iccid target.name)
  | downloadOrder => return responseLine .downloadOrder iccid none (← c.downloadOrder iccid)
  | confirmOrder => return responseLine .confirmOrder iccid none (← c.confirmOrder iccid)
  | activate => return statusLine iccid (← c.activate iccid)

def declare (w : Surroundings m σ) (c : Common) (batch : BatchFlags) :
    Work m σ Batch.Descriptor := do
  let d := batch.declaration (← w.loadSettings c).upload
  .step .batch (pure (d.descriptor, d.events))

def initSettings (w : Surroundings m σ) (path : String) (force : Bool) : Work m σ String := do
  if (← Work.ofFiles (w.files.contains path)) && !force then throw (.occupied path)
  Work.ofExcept .settings (← Work.ofFiles (Settings.save w.files path {}))
  return "Wrote " ++ path ++ "\n"

/-- Does a task, and says what to print. -/
def perform (w : Surroundings m σ) (c : Common) : Task → Work m σ String
  | .call connection iccid call => do
    let settings ← w.loadSettings c
    let config ← Work.ofExcept .missing (connection.resolve settings.connection)
    let client ← .step .call (Es2.Client.connect w.files w.endpoint w.callIds config)
    .ofCall (call.perform client iccid)
  | .declareBatch batch => return (← declare w c batch).toJson.pretty ++ "\n"
  | .batchPayload batch => return Batch.Csv.text (← declare w c batch)
  | .settingsPath => return (← w.namedPath c) ++ "\n"
  | .initSettings force => do initSettings w (← w.namedPath c) force

/-! ## Runs -/

structure Outcome (σ : Type) where
  /-- 0 if all went well, 1 after a failure, 2 for a command line that is not understood. -/
  status : Nat
  output : String
  failure : Option Failure
  log : List Event
  /-- A file that takes the log too. -/
  logFile : Option String
  remote : σ

def versionLine : String := "simbatch 0.1.0\n"

def usageLine : String := "Usage: simbatch [OPTIONS] <COMMAND>\n"

def Stop.outcome (remote : σ) (why : Stop) : Outcome σ where
  status := if why = .refused then 2 else 0
  output := match why with
    | .refused => ""
    | .help => usageLine
    | .version => versionLine
  failure := none
  log := []
  logFile := none
  remote

def failedEvent (f : Failure) : Event :=
  { level := .debug, message := "command failed", fields := [("error", f.message)] }

def Invocation.run (w : Surroundings m σ) (remote : σ) (i : Invocation) : m (Outcome σ) := do
  let filter := Filter.ofVerbosity (i.common.verbosity.getD 0)
  let (result, p) ← (perform w i.common i.task).run.run ⟨remote, []⟩
  let outcome (status : Nat) (output : String) (failure : Option Failure) (events : List Event) :
      Outcome σ :=
    { status, output, failure, log := events.filter (filter.shows ·.level),
      logFile := i.common.logFile, remote := p.remote }
  match result with
  | .ok output => return outcome 0 output none p.events
  | .error f => return outcome 1 "" (some f) (p.events ++ [failedEvent f])

/-- The log file is opened before anything else is done. -/
def run (w : Surroundings m σ) (remote : σ) (args : List String) : m (Outcome σ) := do
  match Invocation.parse args with
  | .error why => return why.outcome remote
  | .ok i =>
    match i.common.logFile with
    | none => i.run w remote
    | some path =>
      if ← w.files.openLog path then i.run w remote
      else
        return {
          status := 1, output := "", failure := some (.log path), log := [], logFile := none,
          remote }

end Provisioning.Cli
