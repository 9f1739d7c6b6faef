import Provisioning.Text.Split
/-!
# File systems

* `FileSystem m` : what the program asks of a file system, `m` being where it runs;
* `parent?` : the directory that a path leads through last.
-/

namespace Provisioning
open Text

structure FileSystem (m : Type → Type) where
  /-- Whether a path leads to a file or a directory. -/
  contains : String → m Bool
  /-- The bytes of a file; `none` if it cannot be read. -/
  read : String → m (Option (List UInt8))
  /-- Makes a directory and those that it lies in; `false` if that fails. -/
  createDirectories : String → m Bool
  /-- Replaces a file or makes it; `false` if that fails. -/
  write : String → List UInt8 → m Bool
  /-- Makes a file that is not there yet, so that text can be added; `false` if that fails. -/
  openLog : String → m Bool

namespace FileSystem

/-- The names along a path; a dot stands for no step but at the front. -/
def names (path : List Char) : List (List Char) :=
  match splitOn '/' path with
  | [] => []
  | n :: ns => n :: ns.filter fun n => !n.isEmpty && n != ['.']

/-- `none` for the root and for a path that leads nowhere. -/
def parent? (path : String) : Option String :=
  match names path.toList with
  | [] => none
  | [[]] => none
  | [[], _] => some "/"
  | ns => some (String.ofList (joinWith ['/'] ns.dropLast))

end FileSystem

end Provisioning
