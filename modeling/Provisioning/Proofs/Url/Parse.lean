import Mathlib.Data.List.TakeWhile
import Provisioning.Proofs.Url.Authority
/-!
# Web addresses as texts

* `parse_http` : behind `http://`, tabs and line ends do not count, nor do slashes in front of the
  authority;
* `fragment_webTail_eq_none_iff` : there is no fragment if there is no number sign;
* `query_webTail_eq_iff` : a query in front of which stands no question mark.
-/

namespace Provisioning.Url
open Text

/-! ## The text -/

/-- A text that neither starts nor ends in a control or a space. -/
theorem clean_eq_filter {s : List Char} (hfirst : ∀ c ∈ s.head?, isControlOrSpace c = false)
    (hlast : ∀ c ∈ s.getLast?, isControlOrSpace c = false) :
    clean s = s.filter (!isSkipped ·) := by
  have hkeep : ∀ {t : List Char}, (∀ c ∈ t.head?, isControlOrSpace c = false) →
      t.dropWhile isControlOrSpace = t := by
    intro t ht
    rcases t with - | ⟨c, t⟩
    · rfl
    · exact List.dropWhile_cons_of_neg (by rw [ht c rfl]; exact Bool.false_ne_true)
  unfold clean
  rw [hkeep hfirst, hkeep (by rwa [List.head?_reverse]), List.reverse_reverse]

/-- What an address holds behind the two slashes, as it is read. -/
def authorityOn (s : List Char) : List Char :=
  (s.filter (!isSkipped ·)).dropWhile (isSlash .web)

/-- Only tabs, line ends and slashes are passed over. -/
theorem mem_authorityOn_iff {c : Char} (hskipped : isSkipped c = false)
    (hslash : isSlash .web c = false) {s : List Char} : c ∈ authorityOn s ↔ c ∈ s := by
  unfold authorityOn
  constructor
  · intro h
    exact (List.mem_filter.mp ((List.dropWhile_sublist _).mem h)).1
  · intro h
    have hmem : c ∈ s.filter (!isSkipped ·) := List.mem_filter.mpr ⟨h, by rw [hskipped]; rfl⟩
    rw [← List.takeWhile_append_dropWhile (p := isSlash .web)
      (l := s.filter (!isSkipped ·))] at hmem
    rcases List.mem_append.mp hmem with hfront | hback
    · have hall := List.all_eq_true.mp List.all_takeWhile c hfront
      exact Bool.noConfusion (hslash.symm.trans hall)
    · exact hback

/-- What is put behind goes on the authority; slashes that come first do not. -/
theorem authorityOn_append {s t : List Char}
    (h : authorityOn s = [] → authorityOn t = t.filter (!isSkipped ·)) :
    authorityOn (s ++ t) = authorityOn s ++ t.filter (!isSkipped ·) := by
  unfold authorityOn at h ⊢
  rw [List.filter_append, List.dropWhile_append]
  split
  · rename_i hnil
    rw [h (List.isEmpty_iff.mp hnil), List.isEmpty_iff.mp hnil, List.nil_append]
  · rfl

theorem parse_http {s : String} {c : Char} (hlast : s.toList.getLast? = some c)
    (hc : isControlOrSpace c = false) :
    parse ("http://" ++ s) = parseAuthority "http".toList .web (authorityOn s.toList) := by
  have htext : ("http://" ++ s).toList =
      'h' :: 't' :: 't' :: 'p' :: ':' :: '/' :: '/' :: s.toList := String.toList_append
  have hclean : clean ("http://" ++ s).toList =
      'h' :: 't' :: 't' :: 'p' :: ':' :: '/' :: '/' :: s.toList.filter (!isSkipped ·) := by
    rw [clean_eq_filter, htext]
    · rfl
    · rw [htext]
      rintro - ⟨⟩
      decide
    · intro d hd
      rw [String.toList_append, List.getLast?_append, hlast] at hd
      cases hd
      exact hc
  unfold parse
  rw [hclean]
  rfl

/-! ## Behind the authority -/

section Span

variable {c : Char} {s : List Char}

theorem all_ne (h : c ∉ s) : ∀ d ∈ s, (d != c) = true := by
  intro d hd
  rw [bne_iff_ne]
  rintro rfl
  exact h hd

theorem span_of_not_mem (h : c ∉ s) : s.span (· != c) = (s, []) := by
  have hall := all_ne h
  rw [List.span_eq_takeWhile_dropWhile, List.takeWhile_eq_self_iff.mpr hall,
    List.dropWhile_eq_nil_iff.mpr hall]

theorem span_append (h : c ∉ s) (rest : List Char) :
    (s ++ c :: rest).span (· != c) = (s, c :: rest) := by
  have hall := all_ne h
  rw [List.span_eq_takeWhile_dropWhile, List.takeWhile_append_of_pos hall,
    List.dropWhile_append_of_pos hall, List.takeWhile_cons_of_neg (by simp),
    List.dropWhile_cons_of_neg (by simp), List.append_nil]

end Span

theorem fragment_webTail_eq_none_iff (s : List Char) : (webTail s).fragment = none ↔ '#' ∉ s := by
  unfold webTail splitTail Tail.encode
  by_cases h : '#' ∈ s
  · obtain ⟨front, rest, rfl, hfront⟩ := List.eq_append_cons_of_mem h
    rw [span_append hfront]
    simp
  · rw [span_of_not_mem h]
    simp [h]

theorem query_webTail {front : List Char} (hfront : '?' ∉ front) {query : List Char}
    (h : '#' ∉ front ++ '?' :: query) :
    (webTail (front ++ '?' :: query)).query =
      some (Percent.encode Percent.inSpecialQuery query) := by
  unfold webTail splitTail Tail.encode
  rw [span_of_not_mem h]
  dsimp only
  rw [span_append hfront]
  rfl

theorem query_webTail_eq_iff {front query : List Char} (h : '#' ∉ front ++ '?' :: query)
    (hquery : Percent.encode Percent.inSpecialQuery query = query) :
    (webTail (front ++ '?' :: query)).query = some query ↔ '?' ∉ front := by
  constructor
  · intro heq hmem
    obtain ⟨first, more, rfl, hfirst⟩ := List.eq_append_cons_of_mem hmem
    rw [List.append_assoc, List.cons_append] at heq h
    rw [query_webTail hfirst h] at heq
    have hsplit : Percent.encode Percent.inSpecialQuery (more ++ '?' :: query) =
        Percent.encode Percent.inSpecialQuery more ++ '?' :: query := by
      have hmark : Percent.encode Percent.inSpecialQuery ('?' :: query) = '?' :: query := by
        conv_rhs => rw [← hquery]
        rfl
      rw [Percent.encode, List.flatMap_append]
      exact congrArg _ hmark
    have hlength := congrArg List.length (hsplit.symm.trans (Option.some.inj heq))
    rw [List.length_append, List.length_cons] at hlength
    omega
  · intro hfront
    rw [query_webTail hfront h, hquery]

end Provisioning.Url
