import Mathlib.Data.List.Basic
import Provisioning.Ini.Reader
import Provisioning.Proofs.Text.Blank
import Provisioning.Proofs.Ini.Escape
/-!
# Documents line by line

* `IsWord` : a name or key of characters without a meaning of their own;
* `Line` : a line of a document; `textOf` is the text of lines;
* `Document.lines` : the lines of a document; `writeSections_eq` ties them to its text;
* `Progress.feed` : what a line adds to a document that is being read;
* `document_foldl_feed` : the lines of a document add up to it.
-/

namespace Provisioning.Ini
open Text

/-! ## Words -/

/-- A character that stands for itself wherever it is. -/
def isInert (c : Char) : Bool :=
  !isBlank c && !isQuote c && !isSeparator c && !isComment c && c != '[' && c != ']' && c != '\\'
    && decide (IsRaw c)

def IsWord (s : List Char) : Prop := s.isEmpty = false ∧ s.all isInert = true

instance (s : List Char) : Decidable (IsWord s) :=
  inferInstanceAs (Decidable (s.isEmpty = false ∧ s.all isInert = true))

structure Inert (c : Char) : Prop where
  blank : isBlank c = false
  quote : isQuote c = false
  separator : isSeparator c = false
  comment : isComment c = false
  opening : c ≠ '['
  closing : c ≠ ']'
  backslash : c ≠ '\\'
  raw : IsRaw c

theorem inert_of_isInert {c : Char} (h : isInert c = true) : Inert c := by
  simp only [isInert, Bool.and_eq_true, Bool.not_eq_true', bne_iff_ne, decide_eq_true_eq] at h
  obtain ⟨⟨⟨⟨⟨⟨⟨h₁, h₂⟩, h₃⟩, h₄⟩, h₅⟩, h₆⟩, h₇⟩, h₈⟩ := h
  exact ⟨h₁, h₂, h₃, h₄, h₅, h₆, h₇, h₈⟩

namespace IsWord

variable {s : List Char}

theorem ne_nil (h : IsWord s) : s ≠ [] := List.isEmpty_eq_false_iff.mp h.1

theorem inert (h : IsWord s) {c : Char} (hc : c ∈ s) : Inert c :=
  inert_of_isInert (List.all_eq_true.mp h.2 c hc)

theorem flatMap_escape (h : IsWord s) : s.flatMap escape = s := by
  have hmap : s.flatMap escape = s.flatMap fun c => [c] :=
    List.flatMap_congr fun c hc => (h.inert hc).raw
  rw [hmap, List.flatMap_singleton']

theorem trim_eq (h : IsWord s) : trim s = s :=
  trim_eq_self (fun _ hc => (h.inert (List.mem_of_mem_head? hc)).blank)
    (fun _ hc => (h.inert (List.mem_of_getLast? hc)).blank)

end IsWord

/-! ## Lines -/

/-- A line as it is written, its value not yet escaped. -/
inductive Line
  | gap
  | header (name : List Char)
  | entry (key value : List Char)

namespace Line

def text : Line → List Char
  | gap => ['\n']
  | header name => '[' :: (name ++ [']', '\n'])
  | entry key value => key ++ '=' :: (value.flatMap escape ++ ['\n'])

/-- A line whose name or key is a word. -/
def IsPlain : Line → Prop
  | gap => True
  | header name => IsWord name
  | entry key _ => IsWord key

end Line

def textOf (ls : List Line) : List Char := ls.flatMap Line.text

theorem textOf_cons (l : Line) (ls : List Line) : textOf (l :: ls) = l.text ++ textOf ls :=
  List.flatMap_cons

/-! ## The lines of a document -/

def entryLine (e : String × String) : Line := .entry e.1.toList e.2.toList

structure Section.IsPlain (s : Section) (name : String) : Prop where
  name_eq : s.name = some name
  name_isWord : IsWord name.toList
  key_isWord : ∀ e ∈ s.values, IsWord e.1.toList

def Section.lines (s : Section) : List Line :=
  (s.name.map fun name => Line.header name.toList).toList ++ s.values.map entryLine

def linesOf : List Section → List Line
  | [] => []
  | [s] => s.lines
  | s :: r => s.lines ++ .gap :: linesOf r

def Document.lines (d : Document) : List Line := linesOf d.sections

theorem textOf_append (ls ls' : List Line) : textOf (ls ++ ls') = textOf ls ++ textOf ls' :=
  List.flatMap_append

theorem writeSection_eq {s : Section} {name : String} (h : s.IsPlain name) :
    writeSection s = textOf s.lines := by
  have hheader : writeHeader s.name =
      textOf (s.name.map fun name => Line.header name.toList).toList := by
    rw [h.name_eq, writeHeader, escapeText, h.name_isWord.flatMap_escape, Option.map_some,
      Option.toList_some, textOf, List.flatMap_singleton, Line.text]
  have hvalues : s.values.flatMap writeEntry = textOf (s.values.map entryLine) := by
    rw [textOf, List.flatMap_map]
    refine List.flatMap_congr fun e he => ?_
    rw [writeEntry, escapeText, escapeText, (h.key_isWord e he).flatMap_escape]
    rfl
  rw [writeSection, hheader, hvalues, Section.lines, textOf_append]

theorem writeSections_eq {ss : List Section} (h : ∀ s ∈ ss, ∃ name, s.IsPlain name) :
    writeSections ss = textOf (linesOf ss) := by
  induction ss with
  | nil => rfl
  | cons s r ih =>
    obtain ⟨name, hs⟩ := h s List.mem_cons_self
    have hr := ih fun t ht => h t (List.mem_cons_of_mem s ht)
    cases r with
    | nil => exact writeSection_eq hs
    | cons t r =>
      rw [writeSections, linesOf, textOf_append, textOf_cons, writeSection_eq hs, hr]
      rfl
      all_goals exact List.cons_ne_nil _ _

/-! ## Lines that are read -/

namespace Progress

/-- What a line adds to a document that is being read. -/
def feed (p : Progress) : Line → Progress
  | .gap => p
  | .header name => p.openSection name
  | .entry key value => (p.withKey key).addValue value

theorem foldl_feed_entries {values : List (String × String)} {name : Option String}
    {front : List (String × String)} {r : List Section}
    (h : ∀ e ∈ values, IsWord e.1.toList) :
    (values.map entryLine).foldl feed ⟨⟨name, front⟩ :: r, []⟩ =
      ⟨⟨name, values.reverse ++ front⟩ :: r, []⟩ := by
  induction values generalizing front with
  | nil => rfl
  | cons e values ih =>
    have hfeed : feed ⟨⟨name, front⟩ :: r, []⟩ (entryLine e) = ⟨⟨name, e :: front⟩ :: r, []⟩ := by
      rw [entryLine, feed, withKey, (h e List.mem_cons_self).trim_eq, addValue]
      simp only [String.ofList_toList]
    rw [List.map_cons, List.foldl_cons, hfeed,
      ih fun e' he' => h e' (List.mem_cons_of_mem e he'), List.reverse_cons, List.append_assoc]
    rfl

theorem foldl_feed_section {s : Section} {name : String} (h : s.IsPlain name)
    (r : List Section) :
    s.lines.foldl feed ⟨r, []⟩ = ⟨{ s with values := s.values.reverse } :: r, []⟩ := by
  obtain ⟨sname, values⟩ := s
  obtain rfl : sname = some name := h.name_eq
  have hopen : feed ⟨r, []⟩ (.header name.toList) = ⟨⟨some name, []⟩ :: r, []⟩ := by
    rw [feed, openSection, h.name_isWord.trim_eq, String.ofList_toList]
  rw [Section.lines, Option.map_some, Option.toList_some, List.singleton_append, List.foldl_cons,
    hopen, foldl_feed_entries h.key_isWord, List.append_nil]

theorem foldl_feed_linesOf {ss : List Section} (h : ∀ s ∈ ss, ∃ name, s.IsPlain name)
    (r : List Section) :
    (linesOf ss).foldl feed ⟨r, []⟩ =
      ⟨(ss.map fun s => { s with values := s.values.reverse }).reverse ++ r, []⟩ := by
  induction ss generalizing r with
  | nil => rfl
  | cons s ss ih =>
    obtain ⟨name, hs⟩ := h s List.mem_cons_self
    have hss := ih fun t ht => h t (List.mem_cons_of_mem s ht)
    cases ss with
    | nil => exact foldl_feed_section hs r
    | cons t ss =>
      rw [linesOf, List.foldl_append, foldl_feed_section hs, List.foldl_cons, feed, hss]
      · simp only [List.map_cons, List.reverse_cons, List.append_assoc, List.cons_append,
          List.nil_append]
      · exact List.cons_ne_nil _ _

theorem document_foldl_feed {d : Document} (h : ∀ s ∈ d.sections, ∃ name, s.IsPlain name) :
    (d.lines.foldl feed empty).document = d := by
  rw [Document.lines, empty, foldl_feed_linesOf h, List.append_nil, document, List.map_reverse,
    List.reverse_reverse, List.map_map]
  have hid : ((fun s : Section => { s with values := s.values.reverse }) ∘
      fun s : Section => { s with values := s.values.reverse }) = id := by
    funext s
    simp only [Function.comp_apply, List.reverse_reverse, id]
  rw [hid, List.map_id]

end Progress

end Provisioning.Ini
