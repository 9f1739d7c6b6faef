import Provisioning.Proofs.Ini.Reading
/-!
# Documents that are read back

* `Kept` : written lines whose values have kept their weight in the lines that were read;
* `Reads.isSafe` : then every value was safe;
* `exists_entry_of_get?` : a value of a document was read of a line with its key;
* `Document.read?_write_of_isSafe` : a document with safe values is read back as it was written;
* `Document.reads_of_read?_write` : any other that is read back was read line by line.
-/

namespace Provisioning.Ini
open Text

/-! ## What a reading keeps -/

def Line.key? : Line → Option (List Char)
  | .entry key _ => some key
  | _ => none

def keysOf (ls : List Line) : List (List Char) := ls.filterMap Line.key?

theorem mem_keysOf {ls : List Line} {key value : List Char} (h : .entry key value ∈ ls) :
    key ∈ keysOf ls :=
  List.mem_filterMap.mpr ⟨_, h, rfl⟩

/-- A value that can be swallowed by none and is safe. -/
structure IsHarmless (v : List Char) : Prop where
  isSafe : IsSafe v
  no_quote : ∀ c ∈ v, isQuote c = false

theorem Reads.exists_entry {ls ms : List Line} (h : Reads ls ms) {key val : List Char}
    (hmem : .entry key val ∈ ms) : ∃ value, .entry key value ∈ ls := by
  induction h with
  | nil => cases hmem
  | gap _ ih =>
    obtain ⟨value, hvalue⟩ := ih hmem
    exact ⟨value, List.mem_cons_of_mem _ hvalue⟩
  | header name _ ih =>
    rcases List.mem_cons.mp hmem with h | h
    · cases h
    · obtain ⟨value, hvalue⟩ := ih h
      exact ⟨value, List.mem_cons_of_mem _ hvalue⟩
  | entry hval _ ih =>
    rcases List.mem_cons.mp hmem with h | h
    · cases h
      exact ⟨_, List.mem_cons_self⟩
    · obtain ⟨value, hvalue⟩ := ih h
      exact ⟨value, List.mem_cons_of_mem _ (List.mem_append_right _ hvalue)⟩

/-- A key stands twice only if it is shared, and then with harmless values; every other value keeps
its weight. -/
structure Kept (IsShared : List Char → Prop) (ls ms : List Line) : Prop where
  keys : (keysOf ls).Pairwise fun key key' => key = key' → IsShared key
  shared : ∀ key value, .entry key value ∈ ls → IsShared key → IsHarmless value
  kept : ∀ key value, .entry key value ∈ ls →
    IsHarmless value ∨ ∃ val, .entry key val ∈ ms ∧ weight val = weight value

namespace Kept

variable {IsShared : List Char → Prop} {l : Line} {ls ls₁ ls₂ ms ms' : List Line}
  {key value val : List Char}

theorem tail (h : Kept IsShared (l :: ls) ms)
    (hms : ∀ key value val, .entry key value ∈ ls → .entry key val ∈ ms →
      IsHarmless value ∨ .entry key val ∈ ms') : Kept IsShared ls ms' where
  keys := h.keys.sublist ((List.sublist_cons_self l ls).filterMap _)
  shared key value hmem := h.shared key value (List.mem_cons_of_mem l hmem)
  kept key value hmem := by
    rcases h.kept key value (List.mem_cons_of_mem l hmem) with hharm | ⟨val, hval, hweight⟩
    · exact .inl hharm
    · rcases hms key value val hmem hval with hharm | hval'
      · exact .inl hharm
      · exact .inr ⟨val, hval', hweight⟩

theorem isHarmless_of_mem (h : Kept IsShared (.entry key value :: ls) ms) {value' : List Char}
    (hmem : .entry key value' ∈ ls) : IsHarmless value ∧ IsHarmless value' := by
  have hkeys := h.keys
  rw [keysOf, List.filterMap_cons, ← keysOf] at hkeys
  have hkey := (List.pairwise_cons.mp hkeys).1 key (mem_keysOf hmem) rfl
  exact ⟨h.shared key value List.mem_cons_self hkey,
    h.shared key value' (List.mem_cons_of_mem _ hmem) hkey⟩

theorem tail_entry (h : Kept IsShared (.entry key value :: ls) (.entry key val :: ms)) :
    Kept IsShared ls ms := by
  refine h.tail fun key' value' val' hmem hval' => ?_
  rcases List.mem_cons.mp hval' with heq | hms
  · cases heq
    exact .inl (h.isHarmless_of_mem hmem).2
  · exact .inr hms

/-- Nothing is left under the key of a value that was swallowed. -/
theorem not_hasQuote (h : Kept IsShared (ls₁ ++ ls₂) ms) (hreads : Reads ls₂ ms) :
    ¬ HasQuote ls₁ := by
  rintro ⟨key, value, hmem, q, hq, hquote⟩
  have hnot : ¬ IsHarmless value := fun hharm => by
    rw [hharm.no_quote q hq] at hquote
    cases hquote
  have hls : .entry key value ∈ ls₁ ++ ls₂ := List.mem_append_left _ hmem
  rcases h.kept key value hls with hharm | ⟨val, hval, -⟩
  · exact hnot hharm
  · obtain ⟨value', hvalue'⟩ := hreads.exists_entry hval
    have hkeys := h.keys
    rw [keysOf, List.filterMap_append, List.pairwise_append] at hkeys
    have hkey := hkeys.2.2 key (mem_keysOf hmem) key (mem_keysOf hvalue') rfl
    exact hnot (h.shared key value hls hkey)

end Kept

/-- Lines that are kept have safe values. -/
theorem Reads.isSafe {IsShared : List Char → Prop} {ls ms : List Line} (h : Reads ls ms)
    (hkept : Kept IsShared ls ms) {key value : List Char} (hmem : .entry key value ∈ ls) :
    IsSafe value := by
  induction h with
  | nil => cases hmem
  | gap _ ih =>
    rcases List.mem_cons.mp hmem with heq | hmem
    · cases heq
    · exact ih (hkept.tail fun _ _ _ _ hms => .inr hms) hmem
  | header name _ ih =>
    rcases List.mem_cons.mp hmem with heq | hmem
    · cases heq
    · refine ih (hkept.tail fun _ _ _ _ hms => .inr ?_) hmem
      rcases List.mem_cons.mp hms with heq | hms
      · cases heq
      · exact hms
  | entry hval hreads ih =>
    rcases hval with ⟨rfl, hsafe⟩ | hquote
    · rcases List.mem_cons.mp hmem with heq | hmem
      · cases heq
        rcases hkept.kept key value List.mem_cons_self with hharm | ⟨val', hval', hweight⟩
        · exact hharm.isSafe
        · rcases List.mem_cons.mp hval' with heq | hms
          · cases heq
            exact hsafe hweight
          · obtain ⟨value', hvalue'⟩ := hreads.exists_entry hms
            exact (hkept.isHarmless_of_mem hvalue').1.isSafe
      · exact ih hkept.tail_entry hmem
    · exact absurd hquote (hkept.tail_entry.not_hasQuote hreads)

namespace Progress

theorem mem_feed_entry {p : Progress} {key val : List Char} {s : Section} {e : String × String}
    (hs : s ∈ (p.feed (.entry key val)).sections) (he : e ∈ s.values) :
    (∃ s' ∈ p.sections, e ∈ s'.values) ∨ e = (String.ofList (trim key), String.ofList val) := by
  obtain ⟨sections, pending⟩ := p
  rcases sections with - | ⟨t, r⟩
  · obtain rfl := List.mem_singleton.mp hs
    exact .inr (List.mem_singleton.mp he)
  · rcases List.mem_cons.mp hs with rfl | hr
    · rcases List.mem_cons.mp he with heq | ht
      · exact .inr heq
      · exact .inl ⟨t, List.mem_cons_self, ht⟩
    · exact .inl ⟨s, List.mem_cons_of_mem t hr, he⟩

theorem exists_entry {ms : List Line} {p : Progress} {s : Section} {e : String × String}
    (hs : s ∈ (ms.foldl feed p).sections) (he : e ∈ s.values) :
    (∃ s' ∈ p.sections, e ∈ s'.values) ∨
      ∃ key val, .entry key val ∈ ms ∧ e = (String.ofList (trim key), String.ofList val) := by
  induction ms generalizing p with
  | nil => exact .inl ⟨s, hs, he⟩
  | cons m ms ih =>
    rw [List.foldl_cons] at hs
    rcases ih hs with ⟨s', hs', he'⟩ | ⟨key, val, hmem, heq⟩
    · cases m with
      | gap => exact .inl ⟨s', hs', he'⟩
      | header name =>
        rcases List.mem_cons.mp hs' with rfl | h
        · cases he'
        · exact .inl ⟨s', h, he'⟩
      | entry key val =>
        rcases mem_feed_entry hs' he' with h | heq
        · exact .inl h
        · exact .inr ⟨key, val, List.mem_cons_self, heq⟩
    · exact .inr ⟨key, val, List.mem_cons_of_mem m hmem, heq⟩

end Progress

theorem exists_entry_of_get? {ms : List Line} {name key value : String}
    (hword : ∀ key val, .entry key val ∈ ms → IsWord key)
    (h : (ms.foldl Progress.feed .empty).document.get? name key = some value) :
    .entry key.toList value.toList ∈ ms := by
  obtain ⟨s, hs, hget⟩ := Option.bind_eq_some_iff.mp h
  obtain ⟨e, he, rfl⟩ := Option.map_eq_some_iff.mp hget
  have hfound := List.find?_some he
  have hkey : e.1 = key := beq_iff_eq.mp hfound
  have hmem := List.mem_of_find?_eq_some he
  have hsection := List.mem_of_find?_eq_some hs
  rw [Progress.document, List.mem_reverse, List.mem_map] at hsection
  obtain ⟨t, ht, rfl⟩ := hsection
  rw [List.mem_reverse] at hmem
  rcases Progress.exists_entry ht hmem with ⟨s', hs', -⟩ | ⟨k, v, hm, rfl⟩
  · cases hs'
  · rw [← hkey, (hword k v hm).trim_eq, String.toList_ofList, String.toList_ofList]
    exact hm

/-! ## Documents -/

/-- A document of sections with words for names and keys. -/
def Document.IsPlain (d : Document) : Prop := ∀ s ∈ d.sections, ∃ name, s.IsPlain name

theorem Section.IsPlain.lines {s : Section} {name : String} (h : s.IsPlain name) :
    ∀ l ∈ s.lines, l.IsPlain := by
  intro l hl
  rw [Section.lines, h.name_eq, Option.map_some, Option.toList_some, List.singleton_append,
    List.mem_cons, List.mem_map] at hl
  rcases hl with rfl | ⟨e, he, rfl⟩
  · exact h.name_isWord
  · exact h.key_isWord e he

theorem mem_linesOf {ss : List Section} {l : Line} (h : l ∈ linesOf ss) :
    l = .gap ∨ ∃ s ∈ ss, l ∈ s.lines := by
  induction ss with
  | nil => cases h
  | cons s ss ih =>
    cases ss with
    | nil => exact .inr ⟨s, List.mem_cons_self, h⟩
    | cons t ss =>
      rw [linesOf, List.mem_append, List.mem_cons] at h
      · rcases h with h | rfl | h
        · exact .inr ⟨s, List.mem_cons_self, h⟩
        · exact .inl rfl
        · rcases ih h with rfl | ⟨u, hu, hl⟩
          · exact .inl rfl
          · exact .inr ⟨u, List.mem_cons_of_mem s hu, hl⟩
      · exact List.cons_ne_nil _ _

theorem mem_linesOf_of_mem {ss : List Section} {s : Section} {l : Line} (hs : s ∈ ss)
    (hl : l ∈ s.lines) : l ∈ linesOf ss := by
  induction ss with
  | nil => cases hs
  | cons t ss ih =>
    cases ss with
    | nil =>
      obtain rfl := List.mem_singleton.mp hs
      exact hl
    | cons u ss =>
      rw [linesOf, List.mem_append, List.mem_cons]
      · rcases List.mem_cons.mp hs with rfl | hs
        · exact .inl hl
        · exact .inr (.inr (ih hs))
      · exact List.cons_ne_nil _ _

namespace Document

variable {d d' : Document}

theorem IsPlain.lines (h : d.IsPlain) : ∀ l ∈ d.lines, l.IsPlain := by
  intro l hl
  rcases mem_linesOf hl with rfl | ⟨s, hs, hmem⟩
  · exact trivial
  · obtain ⟨name, hname⟩ := h s hs
    exact hname.lines l hmem

theorem entry_mem_lines {key value : List Char} :
    .entry key value ∈ d.lines ↔
      ∃ s ∈ d.sections, ∃ e ∈ s.values, key = e.1.toList ∧ value = e.2.toList := by
  constructor
  · intro h
    rcases mem_linesOf h with heq | ⟨s, hs, hmem⟩
    · cases heq
    · rw [Section.lines, List.mem_append, List.mem_map] at hmem
      rcases hmem with hheader | ⟨e, he, heq⟩
      · cases hname : s.name <;> rw [hname] at hheader <;> simp at hheader
      · cases heq
        exact ⟨s, hs, e, he, rfl, rfl⟩
  · rintro ⟨s, hs, e, he, rfl, rfl⟩
    exact mem_linesOf_of_mem hs (List.mem_append_right _ (List.mem_map.mpr ⟨e, he, rfl⟩))

theorem exists_write_eq (h : d.IsPlain) (hne : d.sections ≠ []) :
    write d = textOf d.lines ∧ ∃ r, write d = '[' :: r := by
  obtain ⟨s, ss, hss⟩ := List.exists_cons_of_ne_nil hne
  obtain ⟨name, hname⟩ := h s (hss ▸ List.mem_cons_self)
  have hwrite : write d = textOf d.lines := by rw [write, writeSections_eq h, lines]
  have hlines : ∃ ls, d.lines = .header name.toList :: ls := by
    rw [lines, hss]
    cases ss with
    | nil => exact ⟨_, by rw [linesOf, Section.lines, hname.name_eq]; rfl⟩
    | cons t ss =>
      rw [linesOf, Section.lines, hname.name_eq]
      · exact ⟨_, rfl⟩
      · exact List.cons_ne_nil _ _
  obtain ⟨ls, hls⟩ := hlines
  refine ⟨hwrite, name.toList ++ [']', '\n'] ++ textOf ls, ?_⟩
  rw [hwrite, hls, textOf_cons, Line.text, List.cons_append]

theorem read?_write (h : d.IsPlain) (hne : d.sections ≠ []) :
    read? (write d) = run .empty (skipBlanks ⟨textOf d.lines, true⟩) := by
  obtain ⟨htext, r, hr⟩ := exists_write_eq h hne
  rw [← htext, hr, read?, skipBlanks_of_not (by decide)]

theorem read?_write_of_isSafe (h : d.IsPlain) (hne : d.sections ≠ [])
    (hsafe : ∀ s ∈ d.sections, ∀ e ∈ s.values, IsSafe e.2.toList) :
    read? (write d) = some d := by
  rw [read?_write h hne, run_of_isSafe h.lines, Progress.document_foldl_feed h]
  intro key value hmem
  obtain ⟨s, hs, e, he, rfl, rfl⟩ := entry_mem_lines.mp hmem
  exact hsafe s hs e he

/-- A document that is read back was read line by line. -/
theorem reads_of_read?_write (h : d.IsPlain) (hne : d.sections ≠ [])
    (hread : read? (write d) = some d') :
    ∃ ms, Reads d.lines ms ∧ ∀ name key value, d'.get? name key = some value →
      .entry key.toList value.toList ∈ ms := by
  rw [read?_write h hne] at hread
  obtain ⟨ms, hms, rfl⟩ := run_reads h.lines hread
  refine ⟨ms, hms, fun name key value hget => exists_entry_of_get? (fun k v hmem => ?_) hget⟩
  obtain ⟨value', hvalue'⟩ := hms.exists_entry hmem
  exact h.lines _ hvalue'

def keys (d : Document) : List String := d.sections.flatMap fun s => s.values.map (·.1)

theorem keysOf_section (s : Section) : keysOf s.lines = s.values.map (·.1.toList) := by
  have hheader : keysOf (s.name.map fun name => Line.header name.toList).toList = [] := by
    cases s.name <;> rfl
  have hvalues : keysOf (s.values.map entryLine) = s.values.map (·.1.toList) := by
    have hkey : Line.key? ∘ entryLine = some ∘ fun e => e.1.toList := rfl
    rw [keysOf, List.filterMap_map, hkey, List.filterMap_eq_map]
  rw [keysOf] at hheader hvalues
  rw [Section.lines, keysOf, List.filterMap_append, hheader, hvalues, List.nil_append]

theorem keysOf_lines (d : Document) : keysOf d.lines = d.keys.map String.toList := by
  rw [lines, keys]
  induction d.sections with
  | nil => rfl
  | cons s ss ih =>
    rw [List.flatMap_cons, List.map_append, List.map_map, ← ih]
    cases ss with
    | nil => exact (keysOf_section s).trans (List.append_nil _).symm
    | cons t ss =>
      rw [linesOf, keysOf, List.filterMap_append, ← keysOf, keysOf_section]
      · rfl
      · exact List.cons_ne_nil _ _

end Document

end Provisioning.Ini
