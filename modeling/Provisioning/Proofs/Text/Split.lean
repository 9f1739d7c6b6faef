import Provisioning.Text.Split
/-!
# Texts put together and cut again

* `splitOn_joinWith` : parts without the separator are what their text is cut into;
* `exists_mem_splitOn`, `mem_joinWith` : no other character is lost;
* `IsLines` : a text of lines, each with a newline behind it; its lines are known from it
  (`IsLines.unique`).
-/

namespace Provisioning.Text

variable {sep c : Char} {w s : List Char}

theorem splitOn_cons_self (sep : Char) (s : List Char) :
    splitOn sep (sep :: s) = [] :: splitOn sep s := by
  rw [splitOn, List.foldr_cons, if_pos rfl]
  rfl

theorem splitOn_cons_of_ne (h : c ≠ sep) (s : List Char) :
    splitOn sep (c :: s) = extendHead c (splitOn sep s) := by
  rw [splitOn, List.foldr_cons, if_neg h]
  rfl

theorem splitOn_of_not_mem (h : sep ∉ w) : splitOn sep w = [w] := by
  induction w with
  | nil => rfl
  | cons c w ih =>
    have hc : c ≠ sep := Ne.symm (List.ne_of_not_mem_cons h)
    rw [splitOn_cons_of_ne hc, ih (List.not_mem_of_not_mem_cons h)]
    rfl

/-- The part in front of the first separator, and what the rest is cut into. -/
theorem splitOn_append (h : sep ∉ w) (s : List Char) :
    splitOn sep (w ++ sep :: s) = w :: splitOn sep s := by
  induction w with
  | nil => exact splitOn_cons_self sep s
  | cons c w ih =>
    have hc : c ≠ sep := Ne.symm (List.ne_of_not_mem_cons h)
    rw [List.cons_append, splitOn_cons_of_ne hc, ih (List.not_mem_of_not_mem_cons h)]
    rfl

theorem splitOn_joinWith {ws : List (List Char)} (hne : ws ≠ []) (h : ∀ w ∈ ws, sep ∉ w) :
    splitOn sep (joinWith [sep] ws) = ws := by
  fun_induction joinWith [sep] ws with
  | case1 => exact absurd rfl hne
  | case2 w => exact splitOn_of_not_mem (h w List.mem_cons_self)
  | case3 w ws hws ih =>
    rw [List.append_assoc, List.singleton_append, splitOn_append (h w List.mem_cons_self),
      ih hws fun v hv => h v (List.mem_cons_of_mem _ hv)]

theorem exists_mem_splitOn (hne : c ≠ sep) (h : c ∈ s) : ∃ w ∈ splitOn sep s, c ∈ w := by
  induction s with
  | nil => cases h
  | cons d s ih =>
    by_cases hd : d = sep
    · subst hd
      obtain ⟨w, hw, hc⟩ := ih ((List.mem_cons.mp h).resolve_left hne)
      rw [splitOn_cons_self]
      exact ⟨w, List.mem_cons_of_mem _ hw, hc⟩
    · rw [splitOn_cons_of_ne hd]
      rcases hws : splitOn sep s with - | ⟨v, vs⟩
      · rcases List.mem_cons.mp h with rfl | h
        · exact ⟨[c], List.mem_cons_self, List.mem_cons_self⟩
        · obtain ⟨w, hw, -⟩ := ih h
          rw [hws] at hw
          cases hw
      · rcases List.mem_cons.mp h with rfl | h
        · exact ⟨c :: v, List.mem_cons_self, List.mem_cons_self⟩
        · obtain ⟨w, hw, hc⟩ := ih h
          rw [hws] at hw
          rcases List.mem_cons.mp hw with rfl | hw
          · exact ⟨d :: w, List.mem_cons_self, List.mem_cons_of_mem _ hc⟩
          · exact ⟨w, List.mem_cons_of_mem _ hw, hc⟩

theorem mem_joinWith {ws : List (List Char)} (sep : List Char) (hw : w ∈ ws) (hc : c ∈ w) :
    c ∈ joinWith sep ws := by
  fun_induction joinWith sep ws with
  | case1 => cases hw
  | case2 v =>
    obtain rfl := List.mem_singleton.mp hw
    exact hc
  | case3 v vs hvs ih =>
    rcases List.mem_cons.mp hw with rfl | hw
    · exact List.mem_append_left _ (List.mem_append_left _ hc)
    · exact List.mem_append_right _ (ih hw)

/-! ## Lines -/

/-- The text is these lines, each with a newline behind it and none inside. -/
structure IsLines (s : List Char) (ls : List (List Char)) : Prop where
  eq : s = ls.flatMap (· ++ ['\n'])
  single : ∀ l ∈ ls, '\n' ∉ l

theorem IsLines.splitOn {ls : List (List Char)} (h : IsLines s ls) :
    splitOn '\n' s = ls ++ [[]] := by
  obtain ⟨rfl, hsingle⟩ := h
  induction ls with
  | nil => rfl
  | cons l ls ih =>
    rw [List.flatMap_cons, List.append_assoc, List.singleton_append,
      splitOn_append (hsingle l List.mem_cons_self),
      ih fun m hm => hsingle m (List.mem_cons_of_mem _ hm)]
    rfl

theorem IsLines.unique {ls ms : List (List Char)} (h : IsLines s ls) (h' : IsLines s ms) :
    ls = ms :=
  List.append_cancel_right (h.splitOn.symm.trans h'.splitOn)

theorem IsLines.getLast? {ls : List (List Char)} (h : IsLines s ls) (hne : ls ≠ []) :
    s.getLast? = some '\n' := by
  obtain ⟨ms, m, rfl⟩ : ∃ ms m, ls = ms ++ [m] :=
    ⟨_, _, (List.dropLast_concat_getLast hne).symm⟩
  rw [h.eq, List.flatMap_append, List.flatMap_singleton, ← List.append_assoc,
    List.getLast?_concat]

end Provisioning.Text
