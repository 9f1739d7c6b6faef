import Provisioning.Log
import Provisioning.Text.Utf8
import Provisioning.Ini.Reader
import Provisioning.Ini.Writer
import Provisioning.Settings.Document
import Provisioning.Storage.FileSystem
/-!
# Settings files

* `Settings.ofBytes` : the settings of a file's bytes;
* `Settings.toBytes` : the file for settings;
* `Settings.load` : loads a file; without the file, the defaults hold, which is reported;
* `Settings.save` : saves a file and makes the directory for it.
-/

namespace Provisioning.Settings

/-- A file may start with a byte order mark. -/
def withoutMark : List UInt8 → List UInt8
  | 0xEF :: 0xBB :: 0xBF :: r => r
  | s => s

def ofBytes (path : String) (bytes : List UInt8) : Except Fault Settings :=
  match Utf8.decode? (withoutMark bytes) with
  | none => .error (.read path .unreadable)
  | some text =>
    match Ini.read? text.toList with
    | none => .error (.read path .malformed)
    | some d => ofDocument d

def toBytes (s : Settings) : List UInt8 := Utf8.encode (Ini.write s.toDocument)

def missingEvent (path : String) : Event :=
  { level := .debug, message := "no config file, using defaults", fields := [("path", path)] }

def load {m : Type → Type} [Monad m] (fs : FileSystem m) (path : String) :
    m (Except Fault Settings × List Event) := do
  if ← fs.contains path then
    match ← fs.read path with
    | some bytes => return (ofBytes path bytes, [])
    | none => return (.error (.read path .unreadable), [])
  else
    return (.ok {}, [missingEvent path])

def save {m : Type → Type} [Monad m] (fs : FileSystem m) (path : String) (s : Settings) :
    m (Except Fault Unit) := do
  let ready ←
    match FileSystem.parent? path with
    | some directory => if directory.isEmpty then pure true else fs.createDirectories directory
    | none => pure true
  if ready then
    if ← fs.write path s.toBytes then return .ok () else return .error (.write path)
  else
    return .error (.write path)

def defaultPath (configDirectory : String) : String :=
  (if configDirectory.endsWith "/" then configDirectory else configDirectory ++ "/")
    ++ "simbatch/config.ini"

end Provisioning.Settings
