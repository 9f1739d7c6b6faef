import Provisioning.Cli.Run
/-!
# The program

Reads the command line and the surroundings, runs, and prints what the run leaves.

* `diskFiles` : the files of the machine;
* `configDirectory` : where the user's settings lie;
* `drawCallIds` : identifiers from random bytes.

This program has no TLS of its own, so no server accepts its connections.
-/

namespace Provisioning.Cli

def succeeds {α : Type} (act : IO α) : IO Bool := do
  try
    let _ ← act
    return true
  catch _ => return false

def diskFiles : FileSystem IO where
  contains path := succeeds (IO.FS.realPath path)
  read path := do
    try return some (← IO.FS.readBinFile path).toList
    catch _ => return none
  createDirectories path := succeeds (IO.FS.createDirAll path)
  write path bytes := succeeds (IO.FS.writeBinFile path (ByteArray.mk bytes.toArray))
  openLog path := succeeds (IO.FS.Handle.mk path .append)

/-- An absolute path in the variable for it, or the usual place below the home directory. -/
def configDirectory : IO (Option String) := do
  match ← IO.getEnv "XDG_CONFIG_HOME" with
  | some path => if path.startsWith "/" then return some path else home
  | none => home
where
  home : IO (Option String) := do
    match ← IO.getEnv "HOME" with
    | some path => return if path.isEmpty then none else some (path ++ "/.config")
    | none => return none

/-- No command makes more calls than this. -/
def callLimit : Nat := 8

def drawCallIds : IO Es2.CallIds := do
  try
    let bytes := (← IO.getRandomBytes (UInt64.ofNat (16 * callLimit)).toUSize).toList
    return fun n =>
      if n < callLimit then .ok (Es2.CallId.ofBytes ((bytes.drop (16 * n)).take 16))
      else .error "no identifier left"
  catch e => return fun _ => .error (toString e)

def eventLine (e : Event) : String :=
  e.level.name ++ " " ++ e.message ++ String.join (e.fields.map fun (k, v) => " " ++ k ++ "=" ++ v)
    ++ "\n"

def appendLog (path : String) (lines : List String) : IO Unit := do
  let file ← IO.FS.Handle.mk path .append
  lines.forM file.putStr

def report {σ : Type} (o : Outcome σ) : IO Unit := do
  let lines := o.log.map eventLine
  let err ← IO.getStderr
  lines.forM err.putStr
  if let some path := o.logFile then appendLog path lines
  if let some f := o.failure then err.putStrLn ("Error: " ++ f.message)
  if o.status = 2 then err.putStr usageLine
  (← IO.getStdout).putStr o.output

end Provisioning.Cli

def main (args : List String) : IO UInt32 := do
  let w : Provisioning.Cli.Surroundings IO Unit := {
    files := Provisioning.Cli.diskFiles
    endpoint := .closed
    callIds := ← Provisioning.Cli.drawCallIds
    configDirectory := ← Provisioning.Cli.configDirectory }
  let o ← Provisioning.Cli.run w () args
  Provisioning.Cli.report o
  return UInt32.ofNat o.status
