import Provisioning.Text.Decimal
import Provisioning.Cli.Arguments
import Provisioning.Cli.Flags
import Provisioning.Es2.ProfileState
/-!
# Invocations

The command lines of the program.

* `Common` : what every level takes; of two levels, the inner one wins;
* `ProfileCall`, `Task` : what the program can be asked to do;
* `Invocation.parse` : the invocation that arguments spell.
-/

namespace Provisioning.Cli

/-! ## Values -/

def path? (s : String) : Option String := if s.isEmpty then none else some s

def port? (s : String) : Option UInt16 :=
  match Decimal.signed? (UInt64.size / 2) s.toList with
  | some (.ofNat n) => if n < Decimal.portLimit then some (UInt16.ofNat n) else none
  | _ => none

def seconds? (s : String) : Option UInt64 :=
  (Decimal.unsigned? Decimal.countLimit s.toList).map UInt64.ofNat

/-- The only state that a profile may be sent back to. -/
def target? (s : String) : Option Es2.ProfileState :=
  if s = Es2.ProfileState.available.name then some .available else none

/-! ## The common part -/

structure Common where
  verbosity : Option Nat := none
  logFile : Option String := none
  settingsPath : Option String := none
  deriving DecidableEq, Repr

namespace Common

def withOuter (inner outer : Common) : Common where
  verbosity := inner.verbosity.or outer.verbosity
  logFile := inner.logFile.or outer.logFile
  settingsPath := inner.settingsPath.or outer.settingsPath

def flags : List (Flag Common) := [
  .counter "verbose" 'v' fun c => { c with verbosity := some (c.verbosity.getD 0 + 1) },
  .ofSlot "log-file" path? ⟨(·.logFile), fun s c => { c with logFile := some s }⟩,
  .ofSlot "config" path? ⟨(·.settingsPath), fun s c => { c with settingsPath := some s }⟩,
  .stop "help" 'h' .help]

end Common

variable {α : Type}

def onCommon (give : Given Common) : Given (Common × α) := fun (c, a) =>
  (give c).map fun c => (c, a)

def onOwn (give : Given α) : Given (Common × α) := fun (c, a) => (give a).map fun a => (c, a)

def Level.withCommon (l : Level α) : Level (Common × α) where
  flags := Common.flags.map (·.lift onCommon) ++ l.flags.map (·.lift onOwn)
  operand s := onOwn (l.operand s)
  commands := l.commands

/-- Reads a level below one with `outer`. -/
def Level.readBelow (l : Level α) (outer : Common) (a : α) (args : List String) :
    Except Stop (Common × α × Option (String × List String)) := do
  let ((inner, a), command) ← l.withCommon.read .anything ({}, a) args
  return (inner.withOuter outer, a, command)

/-- Reads a level that no command may follow. -/
def Level.readLast (l : Level α) (outer : Common) (a : α) (args : List String) :
    Except Stop (Common × α) := do
  let (c, a, _) ← l.readBelow outer a args
  return (c, a)

/-! ## Tasks -/

inductive ProfileCall
  | getStatus
  | recoverProfile (target : Es2.ProfileState)
  | cancelOrder (target : Es2.ProfileState)
  | downloadOrder
  | confirmOrder
  | activate
  deriving DecidableEq, Repr

inductive Task
  | call (connection : ConnectionFlags) (iccid : String) (call : ProfileCall)
  | declareBatch (batch : BatchFlags)
  | batchPayload (batch : BatchFlags)
  | settingsPath
  /-- Writes the default settings; `force` is for a file that is there. -/
  | initSettings (force : Bool)
  deriving DecidableEq, Repr

/-! ### Batches -/

/-- What has been said of a batch so far. -/
structure BatchDraft where
  firstIccid : Option String := none
  lastIccid : Option String := none
  firstImsi : Option String := none
  lastImsi : Option String := none
  firstMsisdn : Option String := none
  lastMsisdn : Option String := none
  profileType : Option String := none
  batchQuantity : Option String := none
  uploadHostname : Option String := none
  uploadPort : Option UInt16 := none
  hssVendor : Option String := none
  profileVendor : Option String := none
  initialHssState : Option String := none

namespace BatchDraft

def level : Level BatchDraft where
  flags := [
    .ofSlot "first-iccid" some ⟨(·.firstIccid), fun s d => { d with firstIccid := some s }⟩,
    .ofSlot "last-iccid" some ⟨(·.lastIccid), fun s d => { d with lastIccid := some s }⟩,
    .ofSlot "first-imsi" some ⟨(·.firstImsi), fun s d => { d with firstImsi := some s }⟩,
    .ofSlot "last-imsi" some ⟨(·.lastImsi), fun s d => { d with lastImsi := some s }⟩,
    .ofSlot "first-msisdn" some ⟨(·.firstMsisdn), fun s d => { d with firstMsisdn := some s }⟩,
    .ofSlot "last-msisdn" some ⟨(·.lastMsisdn), fun s d => { d with lastMsisdn := some s }⟩,
    .ofSlot "profile-type" some ⟨(·.profileType), fun s d => { d with profileType := some s }⟩,
    .ofSlot "batch-quantity" some
      ⟨(·.batchQuantity), fun s d => { d with batchQuantity := some s }⟩,
    .ofSlot "upload-hostname" some
      ⟨(·.uploadHostname), fun s d => { d with uploadHostname := some s }⟩,
    .ofSlot "upload-port" port? ⟨(·.uploadPort), fun n d => { d with uploadPort := some n }⟩,
    .ofSlot "hss-vendor" some ⟨(·.hssVendor), fun s d => { d with hssVendor := some s }⟩,
    .ofSlot "profile-vendor" some
      ⟨(·.profileVendor), fun s d => { d with profileVendor := some s }⟩,
    .ofSlot "initial-hss-state" some
      ⟨(·.initialHssState), fun s d => { d with initialHssState := some s }⟩]

def finish? (d : BatchDraft) : Option BatchFlags := do
  return {
    iccid := ⟨← d.firstIccid, ← d.lastIccid⟩
    imsi := ⟨← d.firstImsi, ← d.lastImsi⟩
    msisdn := ⟨← d.firstMsisdn, ← d.lastMsisdn⟩
    profileType := ← d.profileType
    batchQuantity := ← d.batchQuantity
    uploadHostname := d.uploadHostname
    uploadPort := d.uploadPort
    hssVendor := d.hssVendor
    profileVendor := d.profileVendor
    initialHssState := d.initialHssState }

end BatchDraft

/-! ### Profiles -/

def profileCommands : List String :=
  ["get-status", "recover-profile", "cancel-order", "download-order", "confirm-order", "activate"]

def connectionLevel : Level ConnectionFlags where
  flags := [
    .ofSlot "host" some ⟨(·.host), fun s f => { f with host := some s }⟩,
    .ofSlot "port" port? ⟨(·.port), fun n f => { f with port := some n }⟩,
    .ofSlot "requester-id" some ⟨(·.requesterId), fun s f => { f with requesterId := some s }⟩,
    .ofSlot "cert" path? ⟨(·.cert), fun s f => { f with cert := some s }⟩,
    .ofSlot "key" path? ⟨(·.key), fun s f => { f with key := some s }⟩,
    .switch "verify-server-certs" (·.verifyServerCerts)
      fun f => { f with verifyServerCerts := true },
    .ofSlot "timeout-secs" seconds? ⟨(·.timeoutSecs), fun n f => { f with timeoutSecs := some n }⟩,
    .switch "log-payloads" (·.logPayloads) fun f => { f with logPayloads := true }]
  commands := "help" :: profileCommands

structure ProfileDraft where
  iccid : Option String := none
  target : Option Es2.ProfileState := none

namespace ProfileDraft

def iccidSlot : Slot ProfileDraft String := ⟨(·.iccid), fun s d => { d with iccid := some s }⟩

def targetFlag : Flag ProfileDraft :=
  .ofSlot "target-state" target? ⟨(·.target), fun s d => { d with target := some s }⟩

def isTargeted (command : String) : Bool := ["recover-profile", "cancel-order"].contains command

def level (command : String) : Level ProfileDraft where
  flags := if isTargeted command then [targetFlag] else []
  operand := iccidSlot.fill some

/-- A profile is sent back to the available state if no other is given. -/
def call? (d : ProfileDraft) : String → Option ProfileCall
  | "get-status" => some .getStatus
  | "recover-profile" => some (.recoverProfile (d.target.getD .available))
  | "cancel-order" => some (.cancelOrder (d.target.getD .available))
  | "download-order" => some .downloadOrder
  | "confirm-order" => some .confirmOrder
  | "activate" => some .activate
  | _ => none

end ProfileDraft

/-! ### Settings -/

def settingsCommands : List String := ["path", "init"]

def settingsLevel : Level Unit where
  flags := []
  commands := "help" :: settingsCommands

def pathLevel : Level Unit where
  flags := []

def initLevel : Level Bool where
  flags := [.switch "force" id fun _ => true]

/-! ## Invocations -/

def rootLevel : Level Unit where
  flags := [.stop "version" 'V' .version]
  commands := ["es2", "declare-batch", "batch-payload", "config", "help"]

/-- The commands below a level, as paths of names. -/
def rootPaths : List (List String) :=
  ["es2"] :: ["declare-batch"] :: ["batch-payload"] :: ["config"] ::
    (profileCommands.map (["es2", ·]) ++ settingsCommands.map (["config", ·]))

/-- There is help for a level, for the commands below it and for asking for help. -/
def helpAnswer (paths : List (List String)) (names : List String) : Stop :=
  if ([] :: ["help"] :: paths).contains names then .help else .refused

structure Invocation where
  common : Common
  task : Task
  deriving DecidableEq, Repr

namespace Invocation

def parseBatch (task : BatchFlags → Task) (outer : Common) (args : List String) :
    Except Stop Invocation := do
  let (c, d) ← BatchDraft.level.readLast outer {} args
  match d.finish? with
  | some flags => return ⟨c, task flags⟩
  | none => throw .refused

def parseCall (outer : Common) (args : List String) : Except Stop Invocation := do
  let (c, connection, command) ← connectionLevel.readBelow outer {} args
  match command with
  | none => throw .refused
  | some ("help", names) => throw (helpAnswer (profileCommands.map ([·])) names)
  | some (name, args) =>
    let (c, d) ← (ProfileDraft.level name).readLast c {} args
    match d.iccid, d.call? name with
    | some iccid, some call => return ⟨c, .call connection iccid call⟩
    | _, _ => throw .refused

def parseSettings (outer : Common) (args : List String) : Except Stop Invocation := do
  let (c, _, command) ← settingsLevel.readBelow outer () args
  match command with
  | some ("path", args) => do
    let (c, _) ← pathLevel.readLast c () args
    return ⟨c, .settingsPath⟩
  | some ("init", args) => do
    let (c, force) ← initLevel.readLast c false args
    return ⟨c, .initSettings force⟩
  | some (_, names) => throw (helpAnswer (settingsCommands.map ([·])) names)
  | none => throw .refused

def parse (args : List String) : Except Stop Invocation := do
  let (c, _, command) ← rootLevel.readBelow {} () args
  match command with
  | some ("es2", args) => parseCall c args
  | some ("declare-batch", args) => parseBatch .declareBatch c args
  | some ("batch-payload", args) => parseBatch .batchPayload c args
  | some ("config", args) => parseSettings c args
  | some (_, names) => throw (helpAnswer rootPaths names)
  | none => throw .refused

end Invocation

end Provisioning.Cli
