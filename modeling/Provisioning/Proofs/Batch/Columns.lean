import Mathlib.Data.List.DropRight
import Provisioning.Batch.Csv
import Provisioning.Proofs.Text.Split
import Provisioning.Proofs.Batch.Partition
/-!
# The import file read back

* `columns` : what a line holds between its commas, without the spaces around it;
* `cells` : what the line of a subscriber shall hold; `columns_line` is that it does;
* `IsCell` : a text without commas, spaces and newlines, as every written field is;
* `isLines_text` : the lines of the file;
* `text_decodes` : the lines of the file hold its subscribers, so that an accepted batch
  is known from its file.
-/

namespace Provisioning.Batch.Csv
open Text Decimal

/-! ## Columns -/

def trimSpaces (s : List Char) : List Char := (s.dropWhile (· == ' ')).rdropWhile (· == ' ')

def columns (l : List Char) : List (List Char) := (splitOn ',' l).map trimSpaces

/-- The columns of a subscriber; the inventory fills in the four that are empty. -/
def cells (profileType : String) (e : Entry) : List (List Char) :=
  [e.iccid.toList, e.imsi.toList, e.msisdn.toList, [], [], [], [], profileType.toList]

/-- A text that does not change the columns and lines around it. -/
def IsCell (s : List Char) : Prop := ∀ c ∈ s, c ≠ ',' ∧ c ≠ ' ' ∧ c ≠ '\n'

variable {s : List Char} {profileType : String} {e : Entry}

theorem isCell_of_allDigits (h : AllDigits s) : IsCell s := by
  intro c hc
  have hd := h c hc
  refine ⟨?_, ?_, ?_⟩ <;> rintro rfl <;> exact absurd hd (by decide)

theorem isCell_of_isProfileType (h : IsProfileType profileType) : IsCell profileType.toList := by
  obtain ⟨first, rest, heq, hfirst, hrest⟩ := h
  rw [heq]
  intro c hc
  have hclass : c.isUpper = true ∨ c.isDigit = true ∨ c = '_' := by
    rcases List.mem_cons.mp hc with rfl | hc
    · exact Or.inl hfirst
    · exact hrest c hc
  refine ⟨?_, ?_, ?_⟩ <;> rintro rfl <;> exact absurd hclass (by decide)

theorem IsCell.no_comma (h : IsCell s) : ',' ∉ s := fun hmem => (h ',' hmem).1 rfl

theorem IsCell.no_newline (h : IsCell s) : '\n' ∉ s := fun hmem => (h '\n' hmem).2.2 rfl

theorem IsCell.trimSpaces (h : IsCell s) : trimSpaces s = s := by
  have hspace : ∀ c ∈ s, ¬ (c == ' ') = true := fun c hc heq => (h c hc).2.1 (beq_iff_eq.mp heq)
  unfold Csv.trimSpaces
  rw [List.dropWhile_eq_self_iff.mpr fun hl => hspace _ (List.getElem_mem hl),
    List.rdropWhile_eq_self_iff.mpr fun hl => hspace _ (List.getLast_mem hl)]

theorem IsCell.trimSpaces_cons (h : IsCell s) : Csv.trimSpaces (' ' :: s) = s := h.trimSpaces

/-! ## Lines -/

theorem toList_line (profileType : String) (e : Entry) :
    (line profileType e).toList =
      joinWith [','] [e.iccid.toList, ' ' :: e.imsi.toList, ' ' :: e.msisdn.toList, [], [], [], [],
        profileType.toList] := by
  have hcomma : (", " : String).toList = [',', ' '] := rfl
  have hcommas : (",,,,," : String).toList = [',', ',', ',', ',', ','] := rfl
  simp [line, joinWith, String.toList_append, hcomma, hcommas]

/-- What is written in the line of a subscriber. -/
structure HasCells (profileType : String) (e : Entry) : Prop where
  iccid : IsCell e.iccid.toList
  imsi : IsCell e.imsi.toList
  msisdn : IsCell e.msisdn.toList
  profileType : IsCell profileType.toList

theorem HasCells.no_newline (h : HasCells profileType e) :
    '\n' ∉ (line profileType e).toList := by
  rw [toList_line]
  simp [joinWith, h.iccid.no_newline, h.imsi.no_newline, h.msisdn.no_newline,
    h.profileType.no_newline]

theorem columns_line (h : HasCells profileType e) :
    columns (line profileType e).toList = cells profileType e := by
  have hcut : splitOn ',' (line profileType e).toList =
      [e.iccid.toList, ' ' :: e.imsi.toList, ' ' :: e.msisdn.toList, [], [], [], [],
        profileType.toList] := by
    rw [toList_line]
    refine splitOn_joinWith (List.cons_ne_nil _ _) ?_
    simp [h.iccid.no_comma, h.imsi.no_comma, h.msisdn.no_comma, h.profileType.no_comma]
  rw [columns, hcut]
  simp only [List.map_cons, List.map_nil, h.iccid.trimSpaces, h.imsi.trimSpaces_cons,
    h.msisdn.trimSpaces_cons, h.profileType.trimSpaces]
  rfl

theorem cells_injective {profileType' : String} {e' : Entry}
    (h : cells profileType e = cells profileType' e') : profileType = profileType' ∧ e = e' := by
  simp only [cells, List.cons.injEq, String.toList_inj, and_true, true_and] at h
  obtain ⟨hiccid, himsi, hmsisdn, htype⟩ := h
  refine ⟨htype, ?_⟩
  cases e
  cases e'
  congr

/-! ## The file -/

def linesOf (b : Descriptor) : List (List Char) :=
  b.entries.map fun e => (line b.profileType e).toList

theorem isLines_text {b : Descriptor} (h : ∀ e ∈ b.entries, HasCells b.profileType e) :
    IsLines (text b).toList (header.toList :: linesOf b) where
  eq := by
    have hnewline : ("\n" : String).toList = ['\n'] := rfl
    simp [text, linesOf, String.toList_join, List.flatMap_map, hnewline]
  single l hl := by
    rcases List.mem_cons.mp hl with rfl | hl
    · decide +kernel
    · obtain ⟨e, he, rfl⟩ := List.mem_map.mp hl
      exact (h e he).no_newline

theorem columns_linesOf {b : Descriptor} (h : ∀ e ∈ b.entries, HasCells b.profileType e) :
    (linesOf b).map columns = b.entries.map (cells b.profileType) := by
  rw [linesOf, List.map_map]
  exact List.map_congr_left fun e he => columns_line (h e he)

theorem hasCells_of_accepted {d : Declaration} {b : Descriptor} (h : d.descriptor = .ok b) :
    (∃ e, e ∈ b.entries) ∧ ∀ e ∈ b.entries, HasCells b.profileType e := by
  obtain ⟨hall, q, hq, hspan, rfl⟩ := Declaration.descriptor_eq_ok_iff.mp h
  obtain ⟨-, -, -, -, -, -, -, hpos, -⟩ := hq
  have ha := (d.agree_iff_spans q).mpr hspan
  have htype : IsProfileType d.profileType := by
    simp only [Declaration.checks, List.forall_mem_cons] at hall
    obtain ⟨-, -, -, -, -, -, htype, -⟩ := hall
    exact htype
  rw [(Declaration.lists_accepted ha).entries]
  refine ⟨⟨_, List.mem_map_of_mem (List.mem_range.mpr hpos)⟩, fun e he => ?_⟩
  obtain ⟨i, hi, rfl⟩ := List.mem_map.mp he
  have hsub := Declaration.isSubscriber_subscriber hall ha (List.mem_range.mp hi)
  exact {
    iccid := isCell_of_allDigits hsub.iccid_digits.1
    imsi := isCell_of_allDigits hsub.imsi_digits.1
    msisdn := isCell_of_allDigits hsub.msisdn_digits.1
    profileType := isCell_of_isProfileType htype }

/-- Batches with the same file have the same subscribers and the same profile type. -/
theorem eq_of_text_eq {b b' : Descriptor} (h : ∀ e ∈ b.entries, HasCells b.profileType e)
    (h' : ∀ e ∈ b'.entries, HasCells b'.profileType e) (hne : ∃ e, e ∈ b.entries)
    (htext : text b = text b') : b.entries = b'.entries ∧ b.profileType = b'.profileType := by
  have hlines : linesOf b = linesOf b' := by
    have hlines := isLines_text h
    rw [htext] at hlines
    exact (List.cons.inj (hlines.unique (isLines_text h'))).2
  have hcells := columns_linesOf h
  rw [hlines, columns_linesOf h'] at hcells
  obtain ⟨e, he⟩ := hne
  have hmem : cells b.profileType e ∈ b'.entries.map (cells b'.profileType) := by
    rw [hcells]
    exact List.mem_map_of_mem he
  obtain ⟨e', -, he'⟩ := List.mem_map.mp hmem
  obtain ⟨htype, -⟩ := cells_injective he'
  rw [htype] at hcells
  have hinj : Function.Injective (cells b.profileType) := fun _ _ heq => (cells_injective heq).2
  exact ⟨(hinj.list_map hcells).symm, htype.symm⟩

/-- The file of an accepted batch is a header line and a line for each subscriber. Every line has
the eight columns of the header, and those of a subscriber hold its identifiers, four empty texts
and the profile type. So a batch with the same file has the same subscribers and profile type. -/
theorem text_decodes {d : Declaration} {b : Descriptor} (h : d.descriptor = .ok b) :
    (∃ lines es, IsLines (text b).toList (header.toList :: lines) ∧
      (text b).toList.getLast? = some '\n' ∧ lines.length = b.quantity ∧
      (∀ l ∈ header.toList :: lines, (columns l).length = 8) ∧
      b.Lists es ∧ lines.map columns = es.map (cells b.profileType)) ∧
    ∀ (d' : Declaration) (b' : Descriptor), d'.descriptor = .ok b' → text b' = text b →
      b'.entries = b.entries ∧ b'.profileType = b.profileType := by
  obtain ⟨hne, hcells⟩ := hasCells_of_accepted h
  obtain ⟨hlists, hlen⟩ := Declaration.lists_entries h
  have hlines := isLines_text hcells
  have hcolumns := columns_linesOf hcells
  refine ⟨⟨linesOf b, b.entries, hlines, hlines.getLast? (List.cons_ne_nil _ _), ?_, ?_, hlists,
    hcolumns⟩, fun d' b' h' htext => ?_⟩
  · rw [linesOf, List.length_map, hlen]
  · intro l hl
    rcases List.mem_cons.mp hl with rfl | hl
    · decide +kernel
    · have hmem := List.mem_map_of_mem (f := columns) hl
      rw [hcolumns] at hmem
      obtain ⟨e, -, he⟩ := List.mem_map.mp hmem
      rw [← he]
      rfl
  · obtain ⟨hne', hcells'⟩ := hasCells_of_accepted h'
    exact eq_of_text_eq hcells' hcells hne' htext

/-- The line of the last of ten subscribers. Another port does not change the file. -/
theorem sample_text_decodes :
    Declaration.sample.descriptor = .ok (Declaration.sample.accepted 10) ∧
      (∃ lines, IsLines (text (Declaration.sample.accepted 10)).toList (header.toList :: lines) ∧
        lines.length = 10 ∧ (lines.map columns)[9]? =
          some (cells "OYA_M1_BF76" ⟨"8901000000000000092", "242017100000237", "0000000000"⟩)) ∧
      ∃ b, Declaration.descriptor { Declaration.sample with uploadPort := 8081 } = .ok b ∧
        text b = text (Declaration.sample.accepted 10) ∧
        b.entries = (Declaration.sample.accepted 10).entries := by
  obtain ⟨⟨lines, es, hlines, -, hlen, -, hlists, hcolumns⟩, hsame⟩ :=
    text_decodes Declaration.sample_accepted
  have hnine : es[9]? = some ⟨"8901000000000000092", "242017100000237", "0000000000"⟩ := by
    rw [← hlists.answers]
    decide +kernel
  have hother : Declaration.descriptor { Declaration.sample with uploadPort := 8081 } =
      .ok (Declaration.accepted { Declaration.sample with uploadPort := 8081 } 10) :=
    Declaration.eq_ok_of_toOption (by decide +kernel)
  have htext : text (Declaration.accepted { Declaration.sample with uploadPort := 8081 } 10) =
      text (Declaration.sample.accepted 10) := by
    simp only [text, Descriptor.entries, Declaration.accepted, Declaration.ranges]
  refine ⟨Declaration.sample_accepted, ⟨lines, hlines, hlen, ?_⟩, _, hother, htext,
    (hsame _ _ hother htext).1⟩
  rw [hcolumns, List.getElem?_map, hnine]
  rfl

end Provisioning.Batch.Csv
