/-!
# JSON values

* `Json` : a value; a number keeps its literal, an object the order of its members;
* `Json.ofNat`, `Json.ofInt` : whole numbers;
* `Json.compact` : the value without any blank;
* `Json.pretty` : one member or element a line, two spaces deeper than what holds it.
-/

namespace Provisioning

inductive Json
  | null
  | bool (b : Bool)
  | number (literal : String)
  | string (s : String)
  | array (items : List Json)
  | object (members : List (String × Json))
  deriving Repr

namespace Json

def ofNat (n : Nat) : Json := number n.repr

def ofInt (n : Int) : Json := number (if n < 0 then "-" ++ n.natAbs.repr else n.natAbs.repr)

/-! ## Strings -/

/-- A quote, a backslash and the controls are escaped, nothing else. -/
def escape (c : Char) : List Char :=
  if c = '"' then ['\\', '"']
  else if c = '\\' then ['\\', '\\']
  else if c = '\x08' then ['\\', 'b']
  else if c = '\x0c' then ['\\', 'f']
  else if c = '\n' then ['\\', 'n']
  else if c = '\r' then ['\\', 'r']
  else if c = '\t' then ['\\', 't']
  else if c.toNat < 0x20 then
    ['\\', 'u', '0', '0', Nat.digitChar (c.toNat / 16), Nat.digitChar (c.toNat % 16)]
  else [c]

def quoted (s : String) : List Char := '"' :: (s.toList.flatMap escape ++ ['"'])

/-! ## Texts -/

mutual

def compactChars : Json → List Char
  | null => "null".toList
  | bool true => "true".toList
  | bool false => "false".toList
  | number literal => literal.toList
  | string s => quoted s
  | array items => '[' :: (compactItems items ++ [']'])
  | object members => '\x7b' :: (compactMembers members ++ ['\x7d'])

def compactItems : List Json → List Char
  | [] => []
  | [v] => compactChars v
  | v :: r => compactChars v ++ ',' :: compactItems r

def compactMembers : List (String × Json) → List Char
  | [] => []
  | [(k, v)] => quoted k ++ ':' :: compactChars v
  | (k, v) :: r => quoted k ++ ':' :: (compactChars v ++ ',' :: compactMembers r)

end

def compact (v : Json) : String := String.ofList v.compactChars

def newline (depth : Nat) : List Char := '\n' :: List.replicate (2 * depth) ' '

mutual

def prettyChars (depth : Nat) : Json → List Char
  | array (v :: r) => '[' :: (prettyItems (depth + 1) (v :: r) ++ newline depth ++ [']'])
  | object (m :: r) => '\x7b' :: (prettyMembers (depth + 1) (m :: r) ++ newline depth ++ ['\x7d'])
  | v => compactChars v

def prettyItems (depth : Nat) : List Json → List Char
  | [] => []
  | [v] => newline depth ++ prettyChars depth v
  | v :: r => newline depth ++ prettyChars depth v ++ ',' :: prettyItems depth r

def prettyMembers (depth : Nat) : List (String × Json) → List Char
  | [] => []
  | [(k, v)] => newline depth ++ quoted k ++ ':' :: ' ' :: prettyChars depth v
  | (k, v) :: r =>
    newline depth ++ quoted k ++ ':' :: ' ' :: (prettyChars depth v ++ ',' :: prettyMembers depth r)

end

def pretty (v : Json) : String := String.ofList (v.prettyChars 0)

end Json

end Provisioning
