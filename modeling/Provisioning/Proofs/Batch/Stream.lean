import Provisioning.Batch.Csv
import Provisioning.Proofs.Text.Utf8
import Provisioning.Proofs.Batch.Regeneration
/-!
# The import file in a sink

Written piece by piece, the file ends up in a sink as if it had been written at once.

* `Sink.put` : the bytes that fit, all at once; `Sink.put_append` is the law of pieces;
* `Sink.writeAll_eq_put`, `Sink.writeLine_eq_put` : what is written to the end of a text or a line;
* `bytesOf` : the bytes of the lines of subscribers, `encodeText_text` those of the file;
* `streamEntries_eq_put` : what a cursor has left, written line by line;
* `stream_ofRoom` : a sink holds the first bytes of the file, as many as it has room for, and the
  writing fails exactly if that is not all.
-/

namespace Provisioning.Batch.Csv

namespace Sink

/-! ## Pieces -/

/-- The bytes that fit, and whether those are all. -/
def put (s : Sink) (bytes : List UInt8) : Sink × Bool :=
  (s.take (bytes.take (s.fitting bytes.length)), s.fitting bytes.length == bytes.length)

theorem fitting_le (s : Sink) (n : Nat) : s.fitting n ≤ n := by
  unfold fitting
  split
  · exact Nat.le_refl n
  · exact Nat.min_le_left _ _

theorem fitting_fitting (s : Sink) (n : Nat) : s.fitting (s.fitting n) = s.fitting n := by
  obtain ⟨taken, room⟩ := s
  cases room with
  | none => rfl
  | some m =>
    change min (min n m) m = min n m
    omega

theorem take_nil (s : Sink) : s.take [] = s := by
  obtain ⟨taken, room⟩ := s
  cases room <;> rfl

theorem take_take (s : Sink) (a b : List UInt8) : (s.take a).take b = s.take (a ++ b) := by
  obtain ⟨taken, room⟩ := s
  unfold take
  rw [List.reverse_append, List.append_assoc, Option.map_map, List.length_append]
  congr 2
  funext n
  exact Nat.sub_sub n a.length b.length

theorem fitting_add (s : Sink) {a : List UInt8} (h : s.fitting a.length = a.length) (n : Nat) :
    s.fitting (a.length + n) = a.length + (s.take a).fitting n := by
  obtain ⟨taken, room⟩ := s
  cases room with
  | none => rfl
  | some m =>
    change min a.length m = a.length at h
    change min (a.length + n) m = a.length + min n (m - a.length)
    omega

theorem fitting_add_of_lt (s : Sink) {m : Nat} (h : s.fitting m < m) (n : Nat) :
    s.fitting (m + n) = s.fitting m := by
  obtain ⟨taken, room⟩ := s
  cases room with
  | none => exact absurd h (Nat.lt_irrefl m)
  | some k =>
    change min m k < m at h
    change min (m + n) k = min m k
    omega

/-- Pieces go into a sink as the whole does, up to the first that does not fit. -/
theorem put_append (s : Sink) (a b : List UInt8) :
    s.put (a ++ b) = if (s.put a).2 then (s.put a).1.put b else ((s.put a).1, false) := by
  have hle := s.fitting_le a.length
  unfold put
  rw [List.length_append]
  by_cases h : s.fitting a.length = a.length
  · rw [if_pos (beq_iff_eq.mpr h), h, List.take_length, take_take, s.fitting_add h,
      List.take_length_add_append]
    congr 1
    exact Bool.eq_iff_iff.mpr (by simp)
  · have hlt : s.fitting a.length < a.length := Nat.lt_of_le_of_ne hle h
    rw [if_neg (fun hbeq => h (beq_iff_eq.mp hbeq)), s.fitting_add_of_lt hlt,
      List.take_append_of_le_length hle]
    congr 1
    exact beq_false_of_ne (by omega)

theorem put_nil (s : Sink) : s.put [] = (s, true) := by
  have hzero : s.fitting 0 = 0 := Nat.le_zero.mp (s.fitting_le 0)
  unfold put
  rw [List.length_nil, hzero, List.take_nil, take_nil]
  rfl

/-- However often the rest has to be written again, it comes to the same. -/
theorem writeAll_eq_put (s : Sink) (bytes : List UInt8) : s.writeAll bytes = s.put bytes := by
  fun_induction writeAll s bytes with
  | case1 s => exact s.put_nil.symm
  | case2 s b r n hn _ ih =>
    have hle : n ≤ (b :: r).length := s.fitting_le _
    have hlen : ((b :: r).take n).length = n := List.length_take_of_le hle
    have hfit : s.fitting n = n := s.fitting_fitting _
    have hput : s.put ((b :: r).take n) = (s.take ((b :: r).take n), true) := by
      unfold put
      rw [hlen, hfit, List.take_take, Nat.min_self, beq_self_eq_true]
    have happend := s.put_append ((b :: r).take n) ((b :: r).drop n)
    rw [List.take_append_drop, hput, if_pos rfl] at happend
    rw [ih, happend]
  | case3 s b r n hn =>
    have hzero : s.fitting (b :: r).length = 0 := Nat.le_zero.mp (Nat.not_lt.mp hn)
    unfold put
    rw [hzero, List.take_zero, take_nil]
    rfl

theorem writeLine_eq_put (s : Sink) (text : String) :
    s.writeLine text = s.put (Utf8.encodeText (text ++ "\n")) := by
  have hbytes : Utf8.encodeText (text ++ "\n") =
      Utf8.encodeText text ++ Utf8.encodeText "\n" := by
    rw [Utf8.encodeText, String.toList_append, Utf8.encode_append]
    rfl
  rw [hbytes, put_append, ← writeAll_eq_put]
  unfold writeLine
  dsimp only
  rw [writeAll_eq_put (s.writeAll (Utf8.encodeText text)).1]

end Sink

/-! ## The file -/

def bytesOf (profileType : String) (es : List Entry) : List UInt8 :=
  es.flatMap fun e => Utf8.encodeText (line profileType e ++ "\n")

theorem bytesOf_cons (profileType : String) (e : Entry) (es : List Entry) :
    bytesOf profileType (e :: es) =
      Utf8.encodeText (line profileType e ++ "\n") ++ bytesOf profileType es := List.flatMap_cons

theorem encodeText_text (b : Descriptor) :
    Utf8.encodeText (text b) =
      Utf8.encodeText (header ++ "\n") ++ bytesOf b.profileType b.entries := by
  unfold Utf8.encodeText Utf8.encode text bytesOf
  rw [String.toList_join, List.map_cons, List.flatMap_cons, List.flatMap_append, List.map_map,
    List.flatMap_map, List.flatMap_assoc]
  rfl

theorem next?_of_lt {s : Sequences} {q n : Nat} (ha : s.Agree q) (hn : n < q) :
    Cursor.next? ⟨s, n⟩ = some (s.subscriber n, ⟨s, n + 1⟩) := by
  rw [Cursor.next?, Sequences.nth?_of_lt ha hn]
  rfl

theorem next?_of_le {s : Sequences} {q n : Nat} (ha : s.Agree q) (hn : q ≤ n) :
    Cursor.next? ⟨s, n⟩ = none := by
  rw [Cursor.next?, Sequences.nth?_of_le ha hn]
  rfl

theorem streamEntries_of_none {c : Cursor} (h : c.next? = none) (profileType : String) (s : Sink) :
    streamEntries profileType c s = (s, true) := by
  unfold streamEntries
  split
  · rfl
  · rename_i heq
    rw [h] at heq
    cases heq

theorem streamEntries_of_next {c next : Cursor} {e : Entry} (h : c.next? = some (e, next))
    (profileType : String) (s : Sink) :
    streamEntries profileType c s =
      if (s.writeLine (line profileType e)).2 then
        streamEntries profileType next (s.writeLine (line profileType e)).1
      else ((s.writeLine (line profileType e)).1, false) := by
  rw [streamEntries]
  split
  · rename_i heq
    rw [h] at heq
    cases heq
  · rename_i heq
    rw [h] at heq
    cases heq
    rfl

/-- The loop writes the `m` subscribers that are left behind the first `n`. -/
theorem streamEntries_eq_put {sequences : Sequences} {q : Nat} (ha : sequences.Agree q)
    (profileType : String) {m n : Nat} (hq : n + m = q) (s : Sink) :
    streamEntries profileType ⟨sequences, n⟩ s =
      s.put (bytesOf profileType ((List.range' n m).map sequences.subscriber)) := by
  induction m generalizing n s with
  | zero =>
    have hend : q ≤ n := Nat.le_of_eq hq.symm
    rw [streamEntries_of_none (next?_of_le ha hend)]
    exact s.put_nil.symm
  | succ m ih =>
    rw [streamEntries_of_next (next?_of_lt ha (by omega)), s.writeLine_eq_put, ih (by omega),
      List.range'_succ, List.map_cons, bytesOf_cons, s.put_append]

theorem stream_eq_put {d : Declaration} {q : Nat} (ha : d.ranges.Agree q) (s : Sink) :
    stream (d.accepted q) s = s.put (Utf8.encodeText (text (d.accepted q))) := by
  have hentries : (d.accepted q).entries = (List.range' 0 q).map d.ranges.subscriber := by
    rw [← List.range_eq_range']
    exact Sequences.filterMap_nth? ha
  rw [encodeText_text, hentries, s.put_append, ← s.writeLine_eq_put,
    ← streamEntries_eq_put ha _ (Nat.zero_add q)]
  rfl

/-- Written to a sink with room for `n` bytes, the file of an accepted batch leaves its first bytes
there, `n` or all of them, and the writing fails exactly if the file has more. A sink without a
limit gets the file. -/
theorem stream_ofRoom {d : Declaration} {b : Descriptor} (h : d.descriptor = .ok b) :
    (∀ n, (stream b (.ofRoom (some n))).1.written =
        (Utf8.encodeText (text b)).take (min n (Utf8.encodeText (text b)).length) ∧
      ((stream b (.ofRoom (some n))).2 = false ↔ n < (Utf8.encodeText (text b)).length)) ∧
    (stream b (.ofRoom none)).1.written = Utf8.encodeText (text b) ∧
      (stream b (.ofRoom none)).2 = true := by
  obtain ⟨-, q, -, hspan, rfl⟩ := Declaration.descriptor_eq_ok_iff.mp h
  have hstream := stream_eq_put ((d.agree_iff_spans q).mpr hspan)
  generalize Utf8.encodeText (text (d.accepted q)) = bytes at hstream ⊢
  have hwritten : ∀ room, (stream (d.accepted q) (.ofRoom room)).1.written =
      bytes.take ((Sink.ofRoom room).fitting bytes.length) := by
    intro room
    rw [hstream]
    show ((bytes.take _).reverse ++ []).reverse = _
    rw [List.append_nil, List.reverse_reverse]
  have hfits : ∀ room, (stream (d.accepted q) (.ofRoom room)).2 =
      ((Sink.ofRoom room).fitting bytes.length == bytes.length) := by
    intro room
    rw [hstream]
    rfl
  refine ⟨fun n => ⟨?_, ?_⟩, ?_, ?_⟩
  · rw [hwritten, Nat.min_comm]
    rfl
  · rw [hfits, beq_eq_false_iff_ne]
    show min bytes.length n ≠ bytes.length ↔ _
    omega
  · rw [hwritten]
    exact List.take_length
  · rw [hfits]
    exact beq_self_eq_true bytes.length

/-- A sink that is full behind two digits of the first subscriber. -/
theorem sample_stream :
    Declaration.sample.descriptor = .ok (Declaration.sample.accepted 10) ∧
      (stream (Declaration.sample.accepted 10) (.ofRoom (some 55))).1.written =
        Utf8.encodeText (header ++ "\n89") ∧
      (stream (Declaration.sample.accepted 10) (.ofRoom (some 55))).2 = false := by
  obtain ⟨hlimited, -⟩ := stream_ofRoom Declaration.sample_accepted
  obtain ⟨hwritten, hfails⟩ := hlimited 55
  have hstart : (Utf8.encodeText (text (Declaration.sample.accepted 10))).take 56 =
      Utf8.encodeText (header ++ "\n890") := by
    rw [encodeText_text]
    decide +kernel
  have hlt : 55 < (Utf8.encodeText (text (Declaration.sample.accepted 10))).length := by
    have hlen := congrArg List.length hstart
    have h56 : (Utf8.encodeText (header ++ "\n890")).length = 56 := by decide +kernel
    rw [List.length_take, h56] at hlen
    omega
  refine ⟨Declaration.sample_accepted, ?_, hfails.mpr hlt⟩
  have htake := congrArg (List.take 55) hstart
  rw [List.take_take] at htake
  rw [hwritten, Nat.min_eq_left (Nat.le_of_lt hlt)]
  refine htake.trans ?_
  decide +kernel

end Provisioning.Batch.Csv
