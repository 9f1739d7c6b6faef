import Provisioning.Batch.Entries
import Provisioning.Text.Utf8
/-!
# The import file of a batch

One line for each subscriber under a header line, with blanks behind the first commas and four
columns that the inventory fills in.

* `header`, `line` : the lines;
* `text` : the whole file;
* `Sink` : takes bytes, up to a limit if it has one; `Sink.writeAll` goes on until all are taken;
* `stream` : writes the file line by line, and stops where the sink is full.
-/

namespace Provisioning.Batch.Csv

def header : String := "ICCID, IMSI, MSISDN, PIN1, PIN2, PUK1, PUK2, PROFILE"

def line (profileType : String) (e : Entry) : String :=
  e.iccid ++ ", " ++ e.imsi ++ ", " ++ e.msisdn ++ ",,,,," ++ profileType

def text (b : Descriptor) : String :=
  String.join ((header :: b.entries.map (line b.profileType)).map (· ++ "\n"))

/-- Takes bytes in order. It holds none back, so there is nothing to flush. -/
structure Sink where
  /-- The bytes taken so far, the last one first. -/
  taken : List UInt8
  /-- How many more bytes fit; `none` for no limit. -/
  room : Option Nat
  deriving DecidableEq, Repr

namespace Sink

def ofRoom (room : Option Nat) : Sink := ⟨[], room⟩

def written (s : Sink) : List UInt8 := s.taken.reverse

/-- How many of `n` bytes fit. -/
def fitting (s : Sink) (n : Nat) : Nat :=
  match s.room with
  | none => n
  | some room => min n room

def take (s : Sink) (bytes : List UInt8) : Sink :=
  ⟨bytes.reverse ++ s.taken, s.room.map (· - bytes.length)⟩

theorem length_drop_lt {n : Nat} {b : UInt8} {r : List UInt8} (h : 0 < n) :
    ((b :: r).drop n).length < (b :: r).length := by
  rw [List.length_drop, List.length_cons]
  omega

/-- Writes what is left until nothing is, each time the bytes that fit; `false` when none does. -/
def writeAll (s : Sink) : List UInt8 → Sink × Bool
  | [] => (s, true)
  | b :: r =>
    let n := s.fitting (b :: r).length
    if h : 0 < n then
      have := length_drop_lt (b := b) (r := r) h
      (s.take ((b :: r).take n)).writeAll ((b :: r).drop n)
    else (s, false)
termination_by bytes => bytes.length
decreasing_by exact this

def writeLine (s : Sink) (text : String) : Sink × Bool :=
  let (s, all) := s.writeAll (Utf8.encodeText text)
  if all then s.writeAll (Utf8.encodeText "\n") else (s, false)

end Sink

def streamEntries (profileType : String) (c : Cursor) (s : Sink) : Sink × Bool :=
  match h : c.next? with
  | none => (s, true)
  | some (e, next) =>
    have := Cursor.remaining_lt_of_next? h
    let (s, all) := s.writeLine (line profileType e)
    if all then streamEntries profileType next s else (s, false)
termination_by c.remaining
decreasing_by exact this

/-- Writes the file; `false` when the sink did not take all of it. -/
def stream (b : Descriptor) (s : Sink) : Sink × Bool :=
  let (s, all) := s.writeLine header
  if all then streamEntries b.profileType b.cursor s else (s, false)

end Provisioning.Batch.Csv
