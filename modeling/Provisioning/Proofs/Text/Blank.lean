import Provisioning.Text.Blank
/-!
# Texts without the blanks at their ends

* `AllBlank` : a text of blanks;
* `trim_append`, `exists_trim` : trimming takes off blanks at both ends and nothing else;
* `startsPlain_trim`, `endsPlain_trim` : what is left neither starts nor ends with a blank;
* `trim_eq_self` : a text that neither starts nor ends with a blank stays as it is.
-/

namespace Provisioning.Text

def AllBlank (s : List Char) : Prop := ∀ c ∈ s, isBlank c = true

/-- The first character of a text, if it has one, is no blank. -/
def StartsPlain (s : List Char) : Prop := ∀ c ∈ s.head?, isBlank c = false

/-- The last character of a text, if it has one, is no blank. -/
def EndsPlain (s : List Char) : Prop := ∀ c ∈ s.getLast?, isBlank c = false

theorem EndsPlain.reverse {s : List Char} (h : EndsPlain s) : StartsPlain s.reverse := by
  intro c hc
  rw [List.head?_reverse] at hc
  exact h c hc

theorem trimStart_append {front : List Char} (h : AllBlank front) (s : List Char) :
    trimStart (front ++ s) = trimStart s := by
  rw [trimStart, List.dropWhile_append_of_pos h]
  rfl

theorem trimStart_eq_self {s : List Char} (h : StartsPlain s) : trimStart s = s := by
  cases s with
  | nil => rfl
  | cons c s =>
    rw [trimStart, List.dropWhile_cons_of_neg]
    rw [h c rfl]
    decide

theorem trimEnd_append {back : List Char} (h : AllBlank back) (s : List Char) :
    trimEnd (s ++ back) = trimEnd s := by
  have hrev : AllBlank back.reverse := fun c hc => h c (List.mem_reverse.mp hc)
  have hdrop := trimStart_append hrev s.reverse
  rw [trimStart, trimStart] at hdrop
  rw [trimEnd, List.reverse_append, hdrop, trimEnd]

theorem trimEnd_eq_self {s : List Char} (h : EndsPlain s) : trimEnd s = s := by
  have hstart := trimStart_eq_self h.reverse
  rw [trimStart] at hstart
  rw [trimEnd, hstart, List.reverse_reverse]

theorem trim_eq_self {s : List Char} (hs : StartsPlain s) (he : EndsPlain s) : trim s = s := by
  rw [trim, trimStart_eq_self hs, trimEnd_eq_self he]

theorem trim_append {front s back : List Char} (hf : AllBlank front) (hb : AllBlank back)
    (hs : StartsPlain s) (he : EndsPlain s) : trim (front ++ s ++ back) = s := by
  cases s with
  | nil =>
    have hall : AllBlank (front ++ back) := by
      intro c hc
      rcases List.mem_append.mp hc with h | h
      · exact hf c h
      · exact hb c h
    have hnil := trimStart_append hall []
    rw [List.append_nil] at hnil ⊢
    rw [trim, hnil]
    rfl
  | cons c s =>
    rw [List.append_assoc, trim, trimStart_append hf,
      trimStart_eq_self (s := c :: s ++ back) (fun x hx => hs x hx), trimEnd_append hb,
      trimEnd_eq_self he]

theorem exists_trimStart (s : List Char) :
    ∃ front, s = front ++ trimStart s ∧ AllBlank front :=
  ⟨s.takeWhile isBlank, List.takeWhile_append_dropWhile.symm,
    List.all_eq_true.mp List.all_takeWhile⟩

theorem exists_trimEnd (s : List Char) : ∃ back, s = trimEnd s ++ back ∧ AllBlank back := by
  obtain ⟨front, hs, hf⟩ := exists_trimStart s.reverse
  refine ⟨front.reverse, ?_, fun c hc => hf c (List.mem_reverse.mp hc)⟩
  rw [← List.reverse_inj, List.reverse_append, List.reverse_reverse]
  rw [trimStart] at hs
  rw [trimEnd, List.reverse_reverse]
  exact hs

theorem exists_trim (s : List Char) :
    ∃ front back, s = front ++ trim s ++ back ∧ AllBlank front ∧ AllBlank back := by
  obtain ⟨front, hs, hf⟩ := exists_trimStart s
  obtain ⟨back, ht, hb⟩ := exists_trimEnd (trimStart s)
  refine ⟨front, back, ?_, hf, hb⟩
  rw [trim, List.append_assoc, ← ht]
  exact hs

theorem startsPlain_trimStart (s : List Char) : StartsPlain (trimStart s) := by
  intro c hc
  have hhead := List.head?_dropWhile_not isBlank s
  rw [trimStart] at hc
  rw [Option.mem_def.mp hc] at hhead
  exact hhead

theorem endsPlain_trimEnd (s : List Char) : EndsPlain (trimEnd s) := by
  intro c hc
  rw [trimEnd, List.getLast?_reverse] at hc
  exact startsPlain_trimStart s.reverse c hc

theorem endsPlain_trim (s : List Char) : EndsPlain (trim s) := endsPlain_trimEnd (trimStart s)

theorem startsPlain_trim (s : List Char) : StartsPlain (trim s) := by
  intro c hc
  obtain ⟨back, hback, -⟩ := exists_trimEnd (trimStart s)
  refine startsPlain_trimStart s c ?_
  rw [trim, Option.mem_def] at hc
  rw [hback, Option.mem_def, List.head?_append, hc]
  rfl

end Provisioning.Text
