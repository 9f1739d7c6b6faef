import Provisioning.Url.Ipv4
/-!
# IPv6 addresses in a host

* `Reading` : the pieces read so far, in front of the gap `::` and behind it;
* `groups` : reads the groups of an address;
* `parse?` : the eight pieces of an address, without its brackets;
* `longestZeros`, `render` : the pieces in lower case, the longest run of two or more zeros, the
  first of equals, left out.
-/

namespace Provisioning.Ipv6
open Text

structure Reading where
  front : List UInt16
  /-- What follows the gap, once it is seen. -/
  back : Option (List UInt16)

namespace Reading

def empty : Reading := ⟨[], none⟩

/-- The pieces so far; the gap stands for one at least. -/
def size (r : Reading) : Nat :=
  match r.back with
  | none => r.front.length
  | some b => r.front.length + 1 + b.length

def push (r : Reading) (piece : UInt16) : Reading :=
  match r.back with
  | none => { r with front := r.front ++ [piece] }
  | some b => { r with back := some (b ++ [piece]) }

def close? (r : Reading) : Option (List UInt16) :=
  match r.back with
  | none => if r.front.length = 8 then some r.front else none
  | some b => some (r.front ++ List.replicate (8 - r.front.length - b.length) 0 ++ b)

end Reading

/-- A decimal part of an embedded IPv4 address: below 256, without zeros in front. -/
def decimalPart? (s : List Char) : Option Nat :=
  if Decimal.isDigits s && Decimal.value s < 256 && (s.head? != some '0' || s.length == 1) then
    some (Decimal.value s)
  else none

/-- The two pieces that an embedded IPv4 address stands for. -/
def embedded? (s : List Char) : Option (UInt16 × UInt16) := do
  match ← (splitOn '.' s).mapM decimalPart? with
  | [a, b, c, d] => return (UInt16.ofNat (a * 256 + b), UInt16.ofNat (c * 256 + d))
  | _ => none

def group (s : List Char) : List Char := (s.take 4).takeWhile (Hex.isDigit 16)

def groups (r : Reading) (s : List Char) : Option Reading :=
  match s with
  | [] => some r
  | ':' :: t =>
    if r.size = 8 || r.back.isSome then none else groups { r with back := some [] } t
  | c :: t =>
    if r.size = 8 then none
    else
      let ds := group (c :: t)
      let piece := UInt16.ofNat ((Hex.value? 16 ds).getD 0)
      match h : (c :: t).drop ds.length with
      | [] => some (r.push piece)
      | '.' :: _ =>
        if ds.isEmpty || 6 < r.size then none
        else (embedded? (c :: t)).map fun (a, b) => (r.push a).push b
      | ':' :: u =>
        have : u.length < (c :: t).length := by
          have := congrArg List.length h
          simp only [List.length_drop, List.length_cons] at this ⊢
          omega
        if u.isEmpty then none else groups (r.push piece) u
      | _ :: _ => none
  termination_by s.length
  decreasing_by
    · exact Nat.lt_succ_self _
    · exact this

def parse? (s : List Char) : Option (List UInt16) :=
  match s with
  | ':' :: ':' :: t => (groups ⟨[], some []⟩ t).bind Reading.close?
  | ':' :: _ => none
  | s => (groups .empty s).bind Reading.close?

/-- Where the longest run of zeros starts and how long it is. -/
def longestZeros (pieces : List UInt16) : Nat × Nat :=
  (List.range pieces.length).foldl
    (fun best i =>
      let n := ((pieces.drop i).takeWhile (· == 0)).length
      if best.2 < n then (i, n) else best)
    (0, 0)

def renderPieces (pieces : List UInt16) : List Char :=
  joinWith [':'] (pieces.map fun p => Nat.toDigits 16 p.toNat)

def render (pieces : List UInt16) : List Char :=
  let (start, n) := longestZeros pieces
  if 2 ≤ n then
    renderPieces (pieces.take start) ++ [':', ':'] ++ renderPieces (pieces.drop (start + n))
  else renderPieces pieces

end Provisioning.Ipv6
