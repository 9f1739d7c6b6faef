import Mathlib.Algebra.Group.Nat.Defs
import Mathlib.Data.List.Induction
import Provisioning.Text.Decimal
import Provisioning.Text.Utf8
/-!
# Decimal numbers as texts

* `AllDigits` : a text of ASCII digits; such a text has as many bytes as characters
  (`utf8ByteSize_of_allDigits`), and no text has fewer (`length_le_utf8ByteSize`);
* `value_lt` : a number is below the power of ten that its digits count to;
* `eq_of_value_eq` : digits are known from how many there are and from the number they spell;
* `value_padded`, `allDigits_padded`, `length_padded` : a number filled up with zeros still spells
  the same number;
* `padded_eq_iff`, `padded_value` : which digits a number is filled up to;
* `padded_length_padded` : what is filled up to the length of another number;
* `IsUnsigned` : what `unsigned?` reads (`unsigned?_eq_some_iff`).
-/

namespace Provisioning.Decimal

def AllDigits (s : List Char) : Prop := ∀ c ∈ s, c.isDigit = true

theorem isDigits_iff {s : List Char} : isDigits s = true ↔ s ≠ [] ∧ AllDigits s := by
  simp [isDigits, AllDigits]

theorem AllDigits.append {s t : List Char} (hs : AllDigits s) (ht : AllDigits t) :
    AllDigits (s ++ t) := by
  intro c hc
  rcases List.mem_append.mp hc with h | h
  · exact hs c h
  · exact ht c h

theorem AllDigits.head {c : Char} {s : List Char} (h : AllDigits (c :: s)) : c.isDigit = true :=
  h c List.mem_cons_self

theorem AllDigits.tail {c : Char} {s : List Char} (h : AllDigits (c :: s)) : AllDigits s :=
  fun x hx => h x (List.mem_cons_of_mem c hx)

theorem AllDigits.concat {s : List Char} {c : Char} (hs : AllDigits s) (hc : c.isDigit = true) :
    AllDigits (s ++ [c]) :=
  hs.append fun x hx => by rw [List.mem_singleton.mp hx, hc]

theorem AllDigits.reverse {s : List Char} (h : AllDigits s) : AllDigits s.reverse :=
  fun c hc => h c (List.mem_reverse.mp hc)

theorem AllDigits.take {s : List Char} (h : AllDigits s) (n : Nat) : AllDigits (s.take n) :=
  fun c hc => h c (List.mem_of_mem_take hc)

theorem digit_bounds {c : Char} (h : c.isDigit = true) : 48 ≤ c.toNat ∧ c.toNat ≤ 57 :=
  Char.isDigit_iff_toNat.mp h

theorem utf8Size_of_isDigit {c : Char} (h : c.isDigit = true) : c.utf8Size = 1 := by
  obtain ⟨-, h57⟩ := digit_bounds h
  have hle : c.val ≤ 0x7F := by
    rw [UInt32.le_iff_toNat_le]
    exact Nat.le_trans h57 (by decide)
  simp [Char.utf8Size, hle]

/-! ## Bytes -/

theorem utf8ByteSize_eq (s : String) : s.utf8ByteSize = Utf8.byteLength s.toList := by
  have step : ∀ cs : List Char, (cs.flatMap String.utf8EncodeChar).length = Utf8.byteLength cs := by
    intro cs
    induction cs with
    | nil => rfl
    | cons c cs ih =>
      rw [List.flatMap_cons, List.length_append, String.length_utf8EncodeChar, ih]
      rfl
  rw [← step, ← String.size_toByteArray, ← String.utf8Encode_toList, List.utf8Encode]
  simp

theorem length_le_utf8ByteSize (s : String) : s.toList.length ≤ s.utf8ByteSize := by
  rw [utf8ByteSize_eq]
  induction s.toList with
  | nil => exact Nat.le_refl 0
  | cons c cs ih =>
    have hpos := c.utf8Size_pos
    rw [List.length_cons, Utf8.byteLength]
    omega

theorem byteLength_of_allDigits {s : List Char} (h : AllDigits s) :
    Utf8.byteLength s = s.length := by
  induction s with
  | nil => rfl
  | cons c s ih =>
    rw [Utf8.byteLength, utf8Size_of_isDigit h.head, ih h.tail, List.length_cons, Nat.add_comm]

theorem utf8ByteSize_of_allDigits {s : String} (h : AllDigits s.toList) :
    s.utf8ByteSize = s.length := by
  rw [utf8ByteSize_eq, byteLength_of_allDigits h, String.length_toList]

/-! ## Values -/

theorem value_append (s t : List Char) : value (s ++ t) = 10 ^ t.length * value s + value t := by
  rw [value, Nat.ofDigitChars_append, Nat.ofDigitChars_eq_ofDigitChars_zero]
  rfl

theorem value_singleton (c : Char) : value [c] = c.toNat - 48 := by
  simp [value, Nat.ofDigitChars_cons]

theorem value_lt {s : List Char} (h : AllDigits s) : value s < 10 ^ s.length := by
  induction s using List.reverseRecOn with
  | nil => decide
  | append_singleton s c ih =>
    have hs := ih (fun x hx => h x (List.mem_append_left _ hx))
    obtain ⟨h48, h57⟩ := digit_bounds (h c (by simp))
    simp only [value_append, value_singleton, List.length_append, List.length_singleton, pow_succ,
      pow_zero, one_mul]
    omega

theorem value_cons (c : Char) (s : List Char) :
    value (c :: s) = 10 ^ s.length * (c.toNat - 48) + value s := by
  rw [← value_singleton, ← value_append, List.singleton_append]

theorem eq_of_value_eq {s t : List Char} (hs : AllDigits s) (ht : AllDigits t)
    (hlen : s.length = t.length) (hval : value s = value t) : s = t := by
  induction s using List.reverseRecOn generalizing t with
  | nil => exact (List.length_eq_zero_iff.mp hlen.symm).symm
  | append_singleton s c ih =>
    have hne : t ≠ [] := by
      intro h
      rw [h, List.length_append] at hlen
      simp at hlen
    obtain ⟨t, x, rfl⟩ : ∃ u x, t = u ++ [x] :=
      ⟨_, _, (List.dropLast_concat_getLast hne).symm⟩
    obtain ⟨hc48, hc57⟩ := digit_bounds (hs c (by simp))
    obtain ⟨hx48, hx57⟩ := digit_bounds (ht x (by simp))
    simp only [value_append, value_singleton, List.length_append, List.length_singleton,
      pow_one] at hlen hval
    have hst : s = t := by
      apply ih (fun y hy => hs y (List.mem_append_left _ hy))
        (fun y hy => ht y (List.mem_append_left _ hy))
      · omega
      · omega
    have hcx : c = x := Char.toNat_inj.mp (by omega)
    rw [hst, hcx]

/-! ## Written numbers -/

theorem value_render (n : Nat) : value (render n) = n := Nat.ofDigitChars_ten_toDigits

theorem allDigits_render (n : Nat) : AllDigits (render n) :=
  fun _ hc => Nat.isDigit_of_mem_toDigits (by decide) (by decide) hc

theorem render_ne_nil (n : Nat) : render n ≠ [] := Nat.toDigits_ne_nil

theorem toList_repr (n : Nat) : n.repr.toList = render n := by
  rw [Nat.repr, String.toList_ofList, render]

theorem length_render_le {n w : Nat} (hw : 0 < w) (h : n < 10 ^ w) : (render n).length ≤ w :=
  (Nat.length_toDigits_le_iff (by decide) hw).mpr h

theorem length_render_mono {m n : Nat} (h : m ≤ n) : (render m).length ≤ (render n).length := by
  have hpos : 0 < (render n).length := List.length_pos_iff.mpr (render_ne_nil n)
  have hn : n < 10 ^ (render n).length := by
    have hvalue := value_lt (allDigits_render n)
    rwa [value_render] at hvalue
  exact length_render_le hpos (Nat.lt_of_le_of_lt h hn)

theorem value_padded (w n : Nat) : value (padded w n) = n := by
  rw [padded, List.leftpad, value_append, value_render]
  simp [value, Nat.ofDigitChars_replicate_zero]

theorem allDigits_padded (w n : Nat) : AllDigits (padded w n) := by
  refine AllDigits.append (fun c hc => ?_) (allDigits_render n)
  rw [(List.mem_replicate.mp hc).2]
  decide

theorem length_padded {w n : Nat} (hw : 0 < w) (h : n < 10 ^ w) : (padded w n).length = w := by
  rw [padded, List.length_leftpad, Nat.max_eq_left (length_render_le hw h)]

theorem length_padded_eq_max (w n : Nat) : (padded w n).length = max w (render n).length := by
  rw [padded, List.length_leftpad]

/-- Filling up to the length of another number changes nothing if that one is not the longer. -/
theorem padded_length_padded {w m n : Nat} (h : (render m).length ≤ max w (render n).length) :
    padded (padded w m).length n = padded w n := by
  apply eq_of_value_eq (allDigits_padded _ _) (allDigits_padded _ _)
  · rw [length_padded_eq_max, length_padded_eq_max, length_padded_eq_max]
    omega
  · rw [value_padded, value_padded]

theorem padded_injective {w m n : Nat} (h : padded w m = padded w n) : m = n := by
  rw [← value_padded w m, h, value_padded]

/-- A number is filled up to the digits that spell it and are as many as asked for, or as needed. -/
theorem padded_eq_iff {w n : Nat} {s : List Char} (hs : AllDigits s) (hn : value s = n) :
    padded w n = s ↔ s.length = max w (render n).length := by
  constructor
  · intro h
    rw [← h, length_padded_eq_max]
  · intro h
    apply eq_of_value_eq (allDigits_padded w n) hs
    · rw [length_padded_eq_max, h]
    · rw [value_padded, hn]

theorem length_render_value_le {s : List Char} (hs : AllDigits s) (hne : s ≠ []) :
    (render (value s)).length ≤ s.length :=
  length_render_le (List.length_pos_iff.mpr hne) (value_lt hs)

/-- Digits are their number filled up to their length. -/
theorem padded_value {s : List Char} (hs : AllDigits s) (hne : s ≠ []) :
    padded s.length (value s) = s := by
  rw [padded_eq_iff hs rfl]
  exact (Nat.max_eq_left (length_render_value_le hs hne)).symm

/-- Of two digits or more, the number has as many only if the first is not zero. -/
theorem length_render_value_cons {c : Char} {s : List Char} (hs : AllDigits (c :: s))
    (hne : s ≠ []) : (render (value (c :: s))).length = (c :: s).length ↔ c ≠ '0' := by
  have hpos : 0 < s.length := List.length_pos_iff.mpr hne
  have hle := length_render_value_le hs (List.cons_ne_nil c s)
  have htail : value s < 10 ^ s.length := value_lt hs.tail
  have hiff : (render (value (c :: s))).length ≤ s.length ↔ value (c :: s) < 10 ^ s.length :=
    Nat.length_toDigits_le_iff (by decide) hpos
  have hval := value_cons c s
  obtain ⟨h48, -⟩ := digit_bounds (hs c (by simp))
  constructor
  · rintro hlen rfl
    have hzero : '0'.toNat - 48 = 0 := by decide
    rw [hzero, Nat.mul_zero, Nat.zero_add] at hval
    rw [hlen, hval, List.length_cons] at hiff
    omega
  · intro hc
    have hc48 : c.toNat ≠ 48 := fun h => hc (Char.toNat_inj.mp h)
    have hmul : 10 ^ s.length * 1 ≤ 10 ^ s.length * (c.toNat - 48) :=
      Nat.mul_le_mul_left _ (by omega)
    rw [List.length_cons] at hle ⊢
    omega

theorem padded_ne_nil (w n : Nat) : padded w n ≠ [] := by
  intro h
  have := congrArg List.length h
  rw [padded, List.length_leftpad, List.length_nil] at this
  exact render_ne_nil n (List.length_eq_zero_iff.mp (by omega))

/-! ## Unsigned numbers -/

/-- An optional plus sign and digits that spell `n`. -/
def IsUnsigned (s : List Char) (n : Nat) : Prop :=
  ∃ sign digits, s = sign ++ digits ∧ (sign = [] ∨ sign = ['+']) ∧ digits ≠ [] ∧
    AllDigits digits ∧ value digits = n

theorem unsignedDigits_append {sign digits : List Char} (hsign : sign = [] ∨ sign = ['+'])
    (hd : AllDigits digits) : unsignedDigits (sign ++ digits) = digits := by
  rcases hsign with rfl | rfl
  · unfold unsignedDigits
    split
    · rename_i r heq
      have hplus := hd '+' (by rw [List.nil_append] at heq; rw [heq]; simp)
      exact absurd hplus (by decide)
    · rfl
  · rfl

theorem exists_sign (s : List Char) :
    ∃ sign, s = sign ++ unsignedDigits s ∧ (sign = [] ∨ sign = ['+']) := by
  unfold unsignedDigits
  split
  · exact ⟨['+'], rfl, Or.inr rfl⟩
  · exact ⟨[], rfl, Or.inl rfl⟩

theorem unsigned?_eq_some_iff {limit n : Nat} {s : List Char} :
    unsigned? limit s = some n ↔ IsUnsigned s n ∧ n < limit := by
  simp only [unsigned?, Bool.and_eq_true, decide_eq_true_eq, Option.ite_none_right_eq_some,
    Option.some.injEq, isDigits_iff]
  constructor
  · rintro ⟨⟨⟨hne, hd⟩, hlt⟩, rfl⟩
    obtain ⟨sign, hs, hsign⟩ := exists_sign s
    exact ⟨⟨sign, _, hs, hsign, hne, hd, rfl⟩, hlt⟩
  · rintro ⟨⟨sign, digits, rfl, hsign, hne, hd, rfl⟩, hlt⟩
    rw [unsignedDigits_append hsign hd]
    exact ⟨⟨⟨hne, hd⟩, hlt⟩, rfl⟩

theorem IsUnsigned.unique {s : List Char} {m n : Nat} (h : IsUnsigned s m)
    (h' : IsUnsigned s n) : m = n := by
  have hm : unsigned? (m + n + 1) s = some m := unsigned?_eq_some_iff.mpr ⟨h, by omega⟩
  have hn : unsigned? (m + n + 1) s = some n := unsigned?_eq_some_iff.mpr ⟨h', by omega⟩
  exact Option.some.inj (hm.symm.trans hn)

theorem isUnsigned_of_allDigits {s : List Char} (hne : s ≠ []) (hd : AllDigits s) :
    IsUnsigned s (value s) := ⟨[], s, rfl, Or.inl rfl, hne, hd, rfl⟩

theorem unsigned?_of_allDigits {limit : Nat} {s : List Char} (hne : s ≠ []) (hd : AllDigits s)
    (hlt : value s < limit) : unsigned? limit s = some (value s) :=
  unsigned?_eq_some_iff.mpr ⟨isUnsigned_of_allDigits hne hd, hlt⟩

end Provisioning.Decimal
