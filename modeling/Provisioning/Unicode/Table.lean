import Provisioning.Text.Split
import Provisioning.Text.Hex
/-!
# Tables of character properties

A table is written as words of hexadecimal code points: `41` for one of them, `41-5A` for a run,
and behind a colon the value that the run has. All tables are those of Unicode 17.0.

* `words` : the words of a table;
* `Span` : a run of code points; `Span.read` reads it;
* `spans`, `classes` : a table of runs, without and with values;
* `inSpans`, `classOf?` : looking a character up.
-/

namespace Provisioning.Unicode
open Text

def words (table : String) : List (List Char) :=
  (splitOn ' ' (table.toList.map fun c => if c = '\n' then ' ' else c)).filter (!·.isEmpty)

def number (s : List Char) : Nat := (Hex.value? 16 s).getD 0

structure Span where
  first : Nat
  last : Nat
  deriving DecidableEq, Repr

namespace Span

def contains (s : Span) (c : Char) : Bool := s.first ≤ c.toNat && c.toNat ≤ s.last

def read (word : List Char) : Span :=
  match splitOn '-' word with
  | [a, b] => ⟨number a, number b⟩
  | _ => ⟨number word, number word⟩

end Span

def spans (table : String) : List Span := (words table).map Span.read

def inSpans (ss : List Span) (c : Char) : Bool := ss.any (·.contains c)

/-- The runs of a table whose values `value` names. -/
def classes {α : Type} (value : List Char → α) (table : String) : List (Span × α) :=
  (words table).map fun word =>
    match splitOn ':' word with
    | [run, name] => (Span.read run, value name)
    | _ => (Span.read word, value [])

def classOf? {α : Type} (cs : List (Span × α)) (c : Char) : Option α :=
  (cs.find? (·.1.contains c)).map (·.2)

end Provisioning.Unicode
