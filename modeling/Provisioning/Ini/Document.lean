/-!
# Settings documents

* `Ini.Section` : named values in the order in which they stand; a section without a name holds
  what stands before the first header;
* `Ini.Document` : sections in the order in which they stand;
* `Document.get?` : the first value with a key in the first section with a name.
-/

namespace Provisioning.Ini

structure Section where
  name : Option String
  values : List (String × String)
  deriving DecidableEq, Repr

def Section.get? (s : Section) (key : String) : Option String :=
  (s.values.find? (·.1 == key)).map (·.2)

structure Document where
  sections : List Section
  deriving DecidableEq, Repr

namespace Document

def section? (d : Document) (name : String) : Option Section :=
  d.sections.find? (·.name == some name)

def get? (d : Document) (name key : String) : Option String :=
  (d.section? name).bind (·.get? key)

end Document

end Provisioning.Ini
