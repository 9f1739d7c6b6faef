/-!
# Arguments

A command line has levels: each offers flags, operands and commands, and ends at the name of a
command, with which the next level starts.

* `Stop` : why a command line is not carried out;
* `Slot α β` : a place of a record that is filled at most once;
* `Flag α` : a flag, and what it does to a record of what was given;
* `Level α` : what a level offers;
* `Level.read` : reads a level up to the name of a command.

A flag is `--name`, `--name value` or `--name=value`; flags without a value may have a letter, and
letters may stand together after one dash. After two dashes on their own all is operands.
-/

namespace Provisioning.Cli

inductive Stop
  /-- The command line is not understood. -/
  | refused
  /-- It asks how the program is used. -/
  | help
  /-- It asks for the version. -/
  | version
  deriving DecidableEq, Repr

/-- What is given may be refused. -/
abbrev Given (α : Type) := α → Except Stop α

structure Slot (α β : Type) where
  get : α → Option β
  set : β → α → α

inductive Effect (α : Type)
  /-- A flag that stands alone, and its letter. -/
  | mark (letter : Option Char) (give : Given α)
  /-- A flag with a value. -/
  | value (give : String → Given α)

structure Flag (α : Type) where
  name : String
  effect : Effect α

variable {α β : Type}

/-- Fills a slot with what a text says; neither an unreadable text nor a second one will do. -/
def Slot.fill (s : Slot α β) (read : String → Option β) (text : String) : Given α := fun a =>
  match read text, s.get a with
  | some b, none => .ok (s.set b a)
  | _, _ => .error .refused

namespace Flag

def ofSlot (name : String) (read : String → Option β) (s : Slot α β) : Flag α :=
  ⟨name, .value (s.fill read)⟩

def switch (name : String) (isSet : α → Bool) (set : α → α) : Flag α :=
  ⟨name, .mark none fun a => if isSet a then .error .refused else .ok (set a)⟩

def counter (name : String) (letter : Char) (count : α → α) : Flag α :=
  ⟨name, .mark letter fun a => .ok (count a)⟩

def stop (name : String) (letter : Char) (why : Stop) : Flag α :=
  ⟨name, .mark letter fun _ => .error why⟩

/-- A flag of a part of a record. -/
def lift (part : Given α → Given β) (f : Flag α) : Flag β :=
  ⟨f.name, match f.effect with
    | .mark letter give => .mark letter (part give)
    | .value give => .value fun text => part (give text)⟩

def letter? (f : Flag α) : Option Char :=
  match f.effect with
  | .mark letter _ => letter
  | .value _ => none

end Flag

/-! ## Levels -/

structure Level (α : Type) where
  flags : List (Flag α)
  operand : String → Given α := fun _ _ => .error .refused
  commands : List String := []

/-- What the next argument may be. -/
inductive Expected (α : Type)
  | anything
  | value (give : String → Given α)
  | operands

/-- A dash on its own is no flag. -/
def isFlag : List Char → Bool
  | '-' :: _ :: _ => true
  | _ => false

namespace Level

/-- A flag by its name; `text` is what follows the two dashes. -/
def readName (l : Level α) (text : List Char) (a : α) : Except Stop (α × Expected α) :=
  let (name, rest) := text.span (· != '=')
  match l.flags.find? (·.name.toList == name) with
  | none => .error .refused
  | some f =>
    match f.effect, rest with
    | .mark _ give, [] => (give a).map fun a => (a, .anything)
    | .mark _ _, _ :: _ => .error .refused
    | .value give, [] => .ok (a, .value give)
    | .value give, _ :: value => (give (String.ofList value) a).map fun a => (a, .anything)

def readLetter (l : Level α) (a : α) (c : Char) : Except Stop α :=
  match l.flags.find? (·.letter? == some c) with
  | none => .error .refused
  | some f =>
    match f.effect with
    | .mark _ give => give a
    | .value _ => .error .refused

/-- Reads on. The answer is what was given, and the command at which the level ends together with
the arguments after it. -/
def read (l : Level α) :
    Expected α → α → List String → Except Stop (α × Option (String × List String))
  | .value _, _, [] => .error .refused
  | _, a, [] => .ok (a, none)
  | .operands, a, s :: r => do l.read .operands (← l.operand s a) r
  | .value give, a, s :: r =>
    if isFlag s.toList then .error .refused else do l.read .anything (← give s a) r
  | .anything, a, s :: r =>
    if l.commands.contains s then .ok (a, some (s, r))
    else
      match s.toList with
      | ['-', '-'] => l.read .operands a r
      | '-' :: '-' :: text => do
        let (a, expected) ← l.readName text a
        l.read expected a r
      | '-' :: c :: letters => do l.read .anything (← (c :: letters).foldlM l.readLetter a) r
      | _ => do l.read .anything (← l.operand s a) r

end Level

end Provisioning.Cli
