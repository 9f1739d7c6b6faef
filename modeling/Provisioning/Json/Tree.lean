import Provisioning.Json.Token
/-!
# JSON texts as trees

A text is read into a tree as far as it is JSON. Where it is not, the tree ends with the fault, so
that a reader of the tree meets what it would meet in the text, in the same order.

* `Tree` : a value as written, which may be broken at its end;
* `Frame`, `Expect` : what surrounds the value being read, and what may come next;
* `build` : reads tokens one by one;
* `parse` : the tree of a text, and the tokens behind it.
-/

namespace Provisioning.Json

/-- Why a container is not closed. -/
inductive Ending
  | fault (f : Fault)
  /-- A key broken by a fault, with what stands in front of the fault. -/
  | key (body : List UInt8) (f : Fault)
  deriving DecidableEq, Repr

inductive Tree
  | null
  | bool (b : Bool)
  | number (literal : List UInt8)
  | string (body : List UInt8)
  | array (items : List Tree) (ending : Option Fault)
  | object (members : List (List UInt8 × Tree)) (ending : Option Ending)
  | brokenNumber (fault : Fault)
  | brokenString (body : List UInt8) (fault : Fault)
  | broken (fault : Fault)
  deriving Repr

/-- A container that waits for a value, what it holds given from right to left. -/
inductive Frame
  | array (front : List Tree)
  | object (front : List (List UInt8 × Tree)) (key : List UInt8)

def Frame.close (t : Tree) : Frame → Tree
  | array front => .array (t :: front).reverse none
  | object front key => .object ((key, t) :: front).reverse none

/-- Closes all that surrounds a broken value. -/
def closeAll (t : Tree) (stack : List Frame) : Tree := stack.foldl Frame.close t

inductive Expect
  | value
  | itemOrEnd
  | commaOrEnd (front : List Tree)
  | keyOrEnd
  | key (front : List (List UInt8 × Tree))
  | colon (front : List (List UInt8 × Tree)) (key : List UInt8)
  | commaOrClose (front : List (List UInt8 × Tree))

/-- The value that a token is by itself. -/
def leaf? : Token → Option Tree
  | .null => some .null
  | .bool b => some (.bool b)
  | .number literal => some (.number literal)
  | .string body => some (.string body)
  | _ => none

/-- What is left of a value where a token cannot start one. -/
def brokenLeaf : Token → Tree
  | .brokenNumber f => .brokenNumber f
  | .brokenString body f => .brokenString body f
  | .broken f => .broken f
  | _ => .broken .malformed

/-- The object that a token ends where a key should stand. -/
def endingAt : Token → Ending
  | .brokenString body f => .key body f
  | _ => .fault .malformed

/-- What the reader does next: go on, or give back a tree. -/
inductive Next
  | read (stack : List Frame) (expect : Expect)
  | done (t : Tree)
  | broken (t : Tree)

def finish (t : Tree) : List Frame → Next
  | [] => .done t
  | .array front :: stack => .read stack (.commaOrEnd (t :: front))
  | .object front key :: stack => .read stack (.commaOrClose ((key, t) :: front))

def startValue (stack : List Frame) (t : Token) : Next :=
  match t with
  | .openArray => .read stack .itemOrEnd
  | .openObject => .read stack .keyOrEnd
  | t =>
    match leaf? t with
    | some v => finish v stack
    | none => .broken (closeAll (brokenLeaf t) stack)

def startKey (stack : List Frame) (front : List (List UInt8 × Tree)) (t : Token) : Next :=
  match t with
  | .string body => .read stack (.colon front body)
  | t => .broken (closeAll (.object front.reverse (some (endingAt t))) stack)

def step (stack : List Frame) (expect : Expect) (t : Token) : Next :=
  match expect, t with
  | .value, t => startValue stack t
  | .itemOrEnd, .closeArray => finish (.array [] none) stack
  | .itemOrEnd, t => startValue (.array [] :: stack) t
  | .commaOrEnd front, .closeArray => finish (.array front.reverse none) stack
  | .commaOrEnd front, .comma => .read (.array front :: stack) .value
  | .commaOrEnd front, _ => .broken (closeAll (.array front.reverse (some .malformed)) stack)
  | .keyOrEnd, .closeObject => finish (.object [] none) stack
  | .keyOrEnd, t => startKey stack [] t
  | .key front, t => startKey stack front t
  | .colon front key, .colon => .read (.object front key :: stack) .value
  | .colon front key, _ => .broken (closeAll (.broken .malformed) (.object front key :: stack))
  | .commaOrClose front, .closeObject => finish (.object front.reverse none) stack
  | .commaOrClose front, .comma => .read stack (.key front)
  | .commaOrClose front, _ =>
    .broken (closeAll (.object front.reverse (some (.fault .malformed))) stack)

def cutOff (stack : List Frame) (expect : Expect) : Tree :=
  match expect with
  | .value => closeAll (.broken .truncated) stack
  | .itemOrEnd => closeAll (.array [] (some .truncated)) stack
  | .commaOrEnd front => closeAll (.array front.reverse (some .truncated)) stack
  | .keyOrEnd => closeAll (.object [] (some (.fault .truncated))) stack
  | .key front | .commaOrClose front =>
    closeAll (.object front.reverse (some (.fault .truncated))) stack
  | .colon front key => closeAll (.broken .truncated) (.object front key :: stack)

/-- Reads one value, and gives back the tokens behind it. -/
def build (stack : List Frame) (expect : Expect) : List Token → Tree × List Token
  | [] => (cutOff stack expect, [])
  | t :: r =>
    match step stack expect t with
    | .read stack expect => build stack expect r
    | .done v => (v, r)
    | .broken v => (v, [])

def parse (s : List UInt8) : Tree × List Token := build [] .value (tokens s)

end Provisioning.Json
