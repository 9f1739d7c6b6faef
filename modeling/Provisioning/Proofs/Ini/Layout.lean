import Mathlib.Logic.Relation
import Provisioning.Ini.Document
/-!
# The layout of a document

What can be changed in a document without a change to what is found in it.

* `Reordered` : entries in another order, those with the same key among each other in the old one;
* `Reordered.swap` : neighbours with different keys can change places;
* `Relisted` : reordered entries, or one more that has an unknown key or repeats an earlier key;
  the first entry with a known key is the same (`Relisted.find?_eq`);
* `Document.Relaid` : a document with relisted sections, or with the values of one section relisted;
* `Document.get?_eq_of_relaid` : after any number of such changes, back and forth, the same values
  are found.
-/

namespace Provisioning.Ini

/-! ## Lists of entries -/

section Entries

variable {α κ : Type} [BEq κ] [LawfulBEq κ]

/-- Another order, in which the entries with each key have kept theirs. -/
structure Reordered (key : α → κ) (l l' : List α) : Prop where
  perm : l.Perm l'
  order : ∀ k, l.filter (key · == k) = l'.filter (key · == k)

theorem Reordered.swap {key : α → κ} {a b : α} (h : key a ≠ key b) (front back : List α) :
    Reordered key (front ++ a :: b :: back) (front ++ b :: a :: back) where
  perm := (List.Perm.swap b a back).append_left front
  order k := by
    rw [List.filter_append, List.filter_append, List.filter_cons, List.filter_cons,
      List.filter_cons, List.filter_cons]
    by_cases ha : key a = k
    · have hb : ¬ (key b == k) = true := fun hb => h (ha.trans (beq_iff_eq.mp hb).symm)
      rw [if_neg hb, if_neg hb]
    · have ha' : ¬ (key a == k) = true := fun hk => ha (beq_iff_eq.mp hk)
      rw [if_neg ha', if_neg ha']

/-- The same entries reordered, or one entry more, which is not known or comes too late. -/
inductive Relisted (key : α → κ) (IsKnown : κ → Prop) : List α → List α → Prop
  | reordered {l l' : List α} (h : Reordered key l l') : Relisted key IsKnown l l'
  | unknown (front back : List α) {a : α} (h : ¬ IsKnown (key a)) :
    Relisted key IsKnown (front ++ back) (front ++ a :: back)
  | again (front back : List α) {a b : α} (hmem : b ∈ front) (h : key b = key a) :
    Relisted key IsKnown (front ++ back) (front ++ a :: back)

/-- An entry does not count where an earlier one is found. -/
theorem find?_insert {p : α → Bool} {front back : List α} {a : α}
    (h : p a = true → ∃ b ∈ front, p b = true) :
    (front ++ a :: back).find? p = (front ++ back).find? p := by
  rw [List.find?_append, List.find?_append, List.find?_cons]
  cases hp : p a with
  | false => rfl
  | true =>
    obtain ⟨c, hc⟩ := Option.isSome_iff_exists.mp (List.find?_isSome.mpr (h hp))
    rw [hc, Option.some_or, Option.some_or]

theorem Relisted.find?_eq {key : α → κ} {IsKnown : κ → Prop} {l l' : List α} {k : κ}
    (h : Relisted key IsKnown l l') (hk : IsKnown k) :
    l'.find? (key · == k) = l.find? (key · == k) := by
  cases h with
  | reordered h => rw [← List.head?_filter, ← List.head?_filter, h.order]
  | unknown front back hnot => exact find?_insert fun heq => absurd (beq_iff_eq.mp heq ▸ hk) hnot
  | again front back hmem hsame => exact find?_insert fun heq => ⟨_, hmem, hsame ▸ heq⟩

end Entries

/-! ## Documents -/

namespace Document

/-- One change to the sections, or to the values of one section. `known` lists the names and keys
that are looked up. -/
inductive Relaid (known : List (String × String)) : Document → Document → Prop
  | sections {l l' : List Section}
    (h : Relisted Section.name (fun name => ∃ e ∈ known, name = some e.1) l l') :
    Relaid known ⟨l⟩ ⟨l'⟩
  | values (front back : List Section) {name : Option String} {l l' : List (String × String)}
    (h : Relisted Prod.fst (fun key => ∃ n, name = some n ∧ (n, key) ∈ known) l l') :
    Relaid known ⟨front ++ ⟨name, l⟩ :: back⟩ ⟨front ++ ⟨name, l'⟩ :: back⟩

variable {known : List (String × String)} {d d' : Document} {name key : String}

theorem Relaid.get?_eq (h : Relaid known d d') (hk : (name, key) ∈ known) :
    d'.get? name key = d.get? name key := by
  cases h with
  | sections h => rw [get?, section?, h.find?_eq ⟨_, hk, rfl⟩, get?, section?]
  | @values front back n _ _ h =>
    unfold get? section?
    dsimp only
    rw [List.find?_append, List.find?_append]
    cases front.find? (·.name == some name) with
    | some s => rfl
    | none =>
      rw [Option.none_or, Option.none_or, List.find?_cons, List.find?_cons]
      by_cases hn : n = some name
      · subst hn
        have hvalues := h.find?_eq ⟨name, rfl, hk⟩
        simp only [beq_self_eq_true, Option.bind_some, Section.get?, hvalues]
      · simp only [beq_eq_false_iff_ne.mpr hn]

/-- By induction on the changes. -/
theorem get?_eq_of_relaid (h : Relation.EqvGen (Relaid known) d d') (hk : (name, key) ∈ known) :
    d'.get? name key = d.get? name key := by
  induction h with
  | rel d d' h => exact h.get?_eq hk
  | refl d => rfl
  | symm d d' _ ih => exact ih.symm
  | trans d₁ d₂ d₃ _ _ ih₁ ih₂ => exact ih₂.trans ih₁

end Document

end Provisioning.Ini
