import Provisioning.Proofs.Ini.Value
/-!
# Reading lines

* `run_header`, `run_entry` : what is read of a line, and where reading goes on;
* `Reads` : the lines that are read for lines that were written;
* `run_reads` : lines that are read at all are read so;
* `run_of_isSafe` : lines with safe values are read as they are.
-/

namespace Provisioning.Ini
open Text

/-! ## Steps -/

theorem run_cons (p : Progress) (c : Char) (r : List Char) (fresh : Bool) :
    run p ⟨c :: r, fresh⟩ =
      match step p c r fresh with
      | .error _ => none
      | .ok (p', q) => run p' q := by
  rw [run.eq_def]
  dsimp only
  split <;> rename_i h <;> rw [h]

theorem skipBlanks_of_not {c : Char} (hc : isBlank c = false) (r : List Char) (fresh : Bool) :
    skipBlanks ⟨c :: r, fresh⟩ = ⟨c :: r, fresh⟩ := by
  rw [skipBlanks.eq_def]
  simp only [hc, Bool.false_eq_true, if_false]

theorem Inert.indent {c : Char} (h : Inert c) : isIndent c = false := by
  rw [isIndent, Bool.or_eq_false_iff, beq_eq_false_iff_ne, beq_eq_false_iff_ne]
  constructor <;> rintro rfl <;> exact absurd h.blank (by decide)

theorem Inert.lineEnd {c : Char} (h : Inert c) : isLineEnd c = false := by
  rw [isLineEnd, Bool.or_eq_false_iff, beq_eq_false_iff_ne, beq_eq_false_iff_ne]
  constructor <;> rintro rfl <;> exact absurd h.blank (by decide)

theorem head?_textOf {ls : List Line} (hls : ∀ l ∈ ls, l.IsPlain) :
    (textOf ls).head?.any isIndent = false := by
  cases ls with
  | nil => rfl
  | cons l ls =>
    rw [textOf_cons]
    cases l with
    | gap => rfl
    | header name => rfl
    | entry key value =>
      have hkey : IsWord key := hls _ List.mem_cons_self
      obtain ⟨c, key, rfl⟩ := List.exists_cons_of_ne_nil hkey.ne_nil
      exact (hkey.inert List.mem_cons_self).indent

theorem skipBlanks_newline {ls : List Line} (hls : ∀ l ∈ ls, l.IsPlain) (fresh : Bool) :
    skipBlanks ⟨'\n' :: textOf ls, fresh⟩ = skipBlanks ⟨textOf ls, true⟩ := by
  rw [skipBlanks.eq_def]
  simp only [head?_textOf hls]
  rfl

theorem step_inert {p : Progress} {c : Char} (hc : Inert c) (r : List Char) (fresh : Bool) :
    step p c r fresh = (readKey p (c :: r)).map fun (p, q) => (p, skipBlanks q) := by
  simp only [step, hc.comment, hc.opening, hc.separator, hc.indent, hc.lineEnd,
    Bool.false_eq_true, if_false]

theorem run_header {name : List Char} (hname : IsWord name) {ls : List Line}
    (hls : ∀ l ∈ ls, l.IsPlain) (p : Progress) (fresh : Bool) :
    run p (skipBlanks ⟨textOf (.header name :: ls), fresh⟩) =
      run (p.openSection name) (skipBlanks ⟨textOf ls, true⟩) := by
  have htext : textOf (.header name :: ls) = '[' :: (name ++ ']' :: '\n' :: textOf ls) := by
    rw [textOf_cons, Line.text, List.cons_append, List.append_assoc]
    rfl
  have hname : readHeader p (name ++ ']' :: '\n' :: textOf ls) =
      .ok (p.openSection name, ⟨'\n' :: textOf ls, false⟩) := by
    rw [readHeader, readUntil_append, readUntil_of_stop (by decide), List.append_nil,
      List.reverse_reverse]
    · rfl
    · exact fun c hc => ⟨beq_eq_false_iff_ne.mpr (hname.inert hc).closing,
        (hname.inert hc).backslash⟩
  have hstep : step p '[' (name ++ ']' :: '\n' :: textOf ls) fresh =
      .ok (p.openSection name, skipBlanks ⟨textOf ls, true⟩) := by
    rw [step, if_neg (by decide), if_pos rfl, hname, ← skipBlanks_newline hls false]
    rfl
  rw [htext, skipBlanks_of_not (by decide), run_cons, hstep]

theorem run_entry {key : List Char} (hkey : IsWord key) (value : List Char) (ls : List Line)
    (p : Progress) (fresh : Bool) :
    run p (skipBlanks ⟨textOf (.entry key value :: ls), fresh⟩) =
      match readValue (value.flatMap escape ++ '\n' :: textOf ls) with
      | .error _ => none
      | .ok (val, t) => run ((p.withKey key).addValue val) (skipBlanks ⟨t, false⟩) := by
  have htext : textOf (.entry key value :: ls) =
      key ++ '=' :: (value.flatMap escape ++ '\n' :: textOf ls) := by
    rw [textOf_cons, Line.text, List.append_assoc, List.cons_append, List.append_assoc]
    rfl
  have hread : ∀ rest, readKey p (key ++ '=' :: rest) =
      .ok (p.withKey key, ⟨'=' :: rest, false⟩) := by
    intro rest
    rw [readKey, readUntil_append, readUntil_of_stop (by decide), List.append_nil,
      List.reverse_reverse]
    · rfl
    · exact fun c hc => ⟨(hkey.inert hc).separator, (hkey.inert hc).backslash⟩
  obtain ⟨c, r, hcons⟩ := List.exists_cons_of_ne_nil hkey.ne_nil
  have hc : Inert c := hkey.inert (hcons ▸ List.mem_cons_self)
  have hpending : (p.withKey key).key.isEmpty = false := by
    rw [Progress.withKey, hkey.trim_eq, hcons]
    rfl
  have hstep : ∀ rest, run p (skipBlanks ⟨key ++ '=' :: rest, fresh⟩) =
      run (p.withKey key) ⟨'=' :: rest, false⟩ := by
    intro rest
    have hread := hread rest
    rw [hcons, List.cons_append] at hread ⊢
    rw [skipBlanks_of_not hc.blank, run_cons, step_inert hc, hread, Except.map]
    dsimp only
    rw [skipBlanks_of_not (by decide)]
  rw [htext, hstep, run_cons, step, if_neg (by decide), if_neg (by decide), if_pos (by decide),
    hpending, if_neg Bool.false_ne_true]
  cases readValue (value.flatMap escape ++ '\n' :: textOf ls) <;> rfl

/-! ## Runs -/

/-- The lines that are read for lines that were written. A value that is not safe loses weight or
swallows lines with a quote. -/
inductive Reads : List Line → List Line → Prop
  | nil : Reads [] []
  | gap {ls ms : List Line} : Reads ls ms → Reads (.gap :: ls) ms
  | header {ls ms : List Line} (name : List Char) :
      Reads ls ms → Reads (.header name :: ls) (.header name :: ms)
  | entry {ls₁ ls₂ ms : List Line} {key value val : List Char}
      (hval : (ls₁ = [] ∧ (weight val = weight value → IsSafe value)) ∨ HasQuote ls₁) :
      Reads ls₂ ms → Reads (.entry key value :: (ls₁ ++ ls₂)) (.entry key val :: ms)

theorem run_nil (p : Progress) (fresh : Bool) :
    run p (skipBlanks ⟨textOf [], fresh⟩) = some p.document := by
  rw [textOf, List.flatMap_nil, skipBlanks.eq_def, run.eq_def]

theorem run_gap {ls : List Line} (hls : ∀ l ∈ ls, l.IsPlain) (p : Progress) (fresh : Bool) :
    run p (skipBlanks ⟨textOf (.gap :: ls), fresh⟩) = run p (skipBlanks ⟨textOf ls, true⟩) :=
  congrArg (run p) (skipBlanks_newline hls fresh)

theorem run_reads {ls : List Line} (hls : ∀ l ∈ ls, l.IsPlain) {p : Progress} {fresh : Bool}
    {d : Document} (h : run p (skipBlanks ⟨textOf ls, fresh⟩) = some d) :
    ∃ ms, Reads ls ms ∧ d = (ms.foldl Progress.feed p).document := by
  -- A value may swallow any number of lines, so the induction is on how many are left.
  induction hn : ls.length using Nat.strongRecOn generalizing ls p fresh with
  | ind n ih =>
    rcases ls with - | ⟨l, ls⟩
    · rw [run_nil] at h
      exact ⟨[], .nil, (Option.some.inj h).symm⟩
    have hl := hls l List.mem_cons_self
    have hrest : ∀ l ∈ ls, l.IsPlain := fun l' hl' => hls l' (List.mem_cons_of_mem l hl')
    have hlt : ls.length < n := hn ▸ Nat.lt_succ_self ls.length
    cases l with
    | gap =>
      rw [run_gap hrest] at h
      obtain ⟨ms, hms, hd⟩ := ih _ hlt hrest h rfl
      exact ⟨ms, .gap hms, hd⟩
    | header name =>
      rw [run_header hl hrest] at h
      obtain ⟨ms, hms, hd⟩ := ih _ hlt hrest h rfl
      exact ⟨.header name :: ms, .header name hms, hd⟩
    | entry key value =>
      rw [run_entry hl] at h
      rcases readValue_textOf value hrest with ⟨q, hq⟩ | ⟨val, ls₁, ls₂, rfl, hok, hval⟩
      · rw [hq] at h
        cases h
      · have hls₂ : ∀ l ∈ ls₂, l.IsPlain := fun l hl => hrest l (List.mem_append_right _ hl)
        have hlt₂ : ls₂.length < n := by
          rw [List.length_append] at hlt
          omega
        rw [hok] at h
        dsimp only at h
        rw [skipBlanks_newline hls₂] at h
        obtain ⟨ms, hms, hd⟩ := ih _ hlt₂ hls₂ h rfl
        exact ⟨.entry key val :: ms, .entry hval hms, hd⟩

theorem run_of_isSafe {ls : List Line} (hls : ∀ l ∈ ls, l.IsPlain)
    (hsafe : ∀ key value, .entry key value ∈ ls → IsSafe value) (p : Progress) (fresh : Bool) :
    run p (skipBlanks ⟨textOf ls, fresh⟩) = some (ls.foldl Progress.feed p).document := by
  induction ls generalizing p fresh with
  | nil => exact run_nil p fresh
  | cons l ls ih =>
    have hl := hls l List.mem_cons_self
    have hrest : ∀ l ∈ ls, l.IsPlain := fun l' hl' => hls l' (List.mem_cons_of_mem l hl')
    have ih := ih hrest fun key value hmem => hsafe key value (List.mem_cons_of_mem l hmem)
    rw [List.foldl_cons]
    cases l with
    | gap => rw [run_gap hrest, ih, Progress.feed]
    | header name => rw [run_header hl hrest, ih, Progress.feed]
    | entry key value =>
      rw [run_entry hl, readValue_of_isSafe (hsafe key value List.mem_cons_self)]
      dsimp only
      rw [skipBlanks_newline hrest, ih, Progress.feed]

end Provisioning.Ini
