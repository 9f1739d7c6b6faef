/-!
# Log events

What an operation reports while it runs.

* `Level` : how much an event matters;
* `Event` : a level, a message and named values, each shown as text;
* `Filter` : which events are shown; `Filter.ofVerbosity` is the one for a count of flags.
-/

namespace Provisioning

inductive Level
  | debug
  | info
  | warn
  deriving DecidableEq, Repr

def Level.name : Level → String
  | debug => "DEBUG"
  | info => "INFO"
  | warn => "WARN"

structure Event where
  level : Level
  message : String
  fields : List (String × String)
  deriving DecidableEq, Repr

inductive Filter
  | warn
  | info
  | debug
  | trace
  deriving DecidableEq, Repr

namespace Filter

def ofVerbosity : Nat → Filter
  | 0 => warn
  | 1 => info
  | 2 => debug
  | _ => trace

def name : Filter → String
  | warn => "warn"
  | info => "info"
  | debug => "debug"
  | trace => "trace"

def shows : Filter → Level → Bool
  | warn, l => l == .warn
  | info, l => l == .warn || l == .info
  | _, _ => true

end Filter

end Provisioning
