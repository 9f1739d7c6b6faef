import Provisioning.Proofs.Batch.Range
/-!
# Ranges in words of the machine

The numbers of a range are kept in words of 64 bits, and a number is filled up to no more characters
than a word of 16 bits can count.

* `WordRange` : a range in words; where a sum, a difference or a width does not fit, there is no
  result at all;
* `WordRange.toRange` : the same range over the natural numbers;
* `WordRange.length?_eq`, `WordRange.number?_eq`, `WordRange.nth?_eq` : what fits is what the
  natural numbers give, and only the length of the widest range does not fit;
* `WordRange.Fits` : a range that nothing is asked for which does not fit;
* `WordRange.toRange_parse` : words and natural numbers are read from the same texts;
* `WordRange.exists_fits` : a range that is read fits, unless its first end is too wide;
* `IsWidest` : ends that are as far from each other as two words can be;
* `Range.IsExact` : a range as the integers give it;
* `Range.parse_exact` : which ends a range is read from, that it is exact, and that nothing it is
  asked for overflows.
-/

namespace Provisioning.Batch
open Decimal

/-! ## Words -/

/-- The sum of two words, if it is a word. -/
def plus? (a b : UInt64) : Option UInt64 :=
  if a.toNat + b.toNat < UInt64.size then some (a + b) else none

/-- The difference of two words, if it is a word. -/
def minus? (a b : UInt64) : Option UInt64 := if b ≤ a then some (a - b) else none

theorem plus?_eq (a b : UInt64) : (plus? a b).map UInt64.toNat =
    if a.toNat + b.toNat < UInt64.size then some (a.toNat + b.toNat) else none := by
  unfold plus?
  split
  · rename_i hlt
    rw [Option.map_some, UInt64.toNat_add]
    exact congrArg some (Nat.mod_eq_of_lt hlt)
  · rfl

theorem minus?_eq (a b : UInt64) : (minus? a b).map UInt64.toNat =
    if b.toNat ≤ a.toNat then some (a.toNat - b.toNat) else none := by
  unfold minus?
  simp only [UInt64.le_iff_toNat_le]
  split
  · rename_i hle
    rw [Option.map_some, UInt64.toNat_sub_of_le _ _ (UInt64.le_iff_toNat_le.mpr hle)]
  · rfl

/-! ## Ranges -/

/-- Widths of fields stay below this. -/
def widthLimit : Nat := UInt16.size

/-- A number in a field, if the field is not too wide. -/
def filled? (width : Nat) (n : UInt64) : Option String :=
  if width < widthLimit then some (String.ofList (padded width n.toNat)) else none

structure WordRange where
  first : UInt64
  last : UInt64
  width : Nat
  deriving DecidableEq, Repr

namespace WordRange

def toRange (r : WordRange) : Range := ⟨r.first.toNat, r.last.toNat, r.width⟩

def distance (r : WordRange) : UInt64 :=
  if r.first ≤ r.last then r.last - r.first else r.first - r.last

def length? (r : WordRange) : Option UInt64 := plus? r.distance 1

def increment (r : WordRange) : Increment := if r.first ≤ r.last then .up else .down

def number? (r : WordRange) (i : UInt64) : Option UInt64 :=
  match r.increment with
  | .up => plus? r.first i
  | .down => minus? r.first i

/-- The identifier at `i`, or that there is none; no result where a step on the way does not fit. -/
def nth? (r : WordRange) (i : UInt64) : Option (Option String) := do
  let n ← r.length?
  if i < n then
    let x ← r.number? i
    let s ← filled? r.width x
    return some s
  else
    return none

def parse (label first last : String) : Except Rejection WordRange := do
  let a ← Range.parseEnd "first" label first
  let b ← Range.parseEnd "last" label last
  let r : WordRange := ⟨.ofNat a, .ofNat b, first.utf8ByteSize⟩
  if r.length?.isSome then
    return r
  else
    throw (.invalidFormat (label ++ " range") (first ++ ".." ++ last)
      "more identifiers than can be counted")

variable {r : WordRange}

theorem toNat_distance (r : WordRange) : r.distance.toNat + 1 = r.toRange.length := by
  unfold distance Range.length toRange
  dsimp only
  split
  · rename_i hle
    rw [UInt64.toNat_sub_of_le _ _ hle]
    have := UInt64.le_iff_toNat_le.mp hle
    omega
  · rename_i hgt
    have hle := UInt64.le_of_lt (UInt64.not_le.mp hgt)
    rw [UInt64.toNat_sub_of_le _ _ hle]
    have := UInt64.le_iff_toNat_le.mp hle
    omega

theorem length?_eq (r : WordRange) : r.length?.map UInt64.toNat =
    if r.toRange.length < UInt64.size then some r.toRange.length else none := by
  have hone : (1 : UInt64).toNat = 1 := rfl
  rw [length?, plus?_eq, hone, toNat_distance]

theorem isSome_length?_iff (r : WordRange) :
    r.length?.isSome = true ↔ r.toRange.length < UInt64.size := by
  rw [← Option.isSome_map (f := UInt64.toNat), length?_eq]
  split
  · rename_i hlen
    exact iff_of_true rfl hlen
  · rename_i hlen
    exact iff_of_false Bool.false_ne_true hlen

theorem increment_eq (r : WordRange) : r.increment = r.toRange.increment := by
  unfold increment Range.increment toRange
  simp only [UInt64.le_iff_toNat_le]

/-- Between its ends a range stays within the words that they are. -/
theorem number?_eq {i : UInt64} (hi : i.toNat < r.toRange.length) :
    (r.number? i).map UInt64.toNat = some (r.toRange.number i.toNat) := by
  have hlast := r.last.toNat_lt
  have hsize : UInt64.size = 2 ^ 64 := rfl
  unfold number? Range.number
  rw [increment_eq]
  unfold Range.increment
  unfold Range.length at hi
  split_ifs with hle
  · show (plus? r.first i).map UInt64.toNat = some (r.first.toNat + i.toNat)
    rw [plus?_eq, if_pos]
    unfold toRange at hi hle
    dsimp only at hi hle
    omega
  · show (minus? r.first i).map UInt64.toNat = some (r.first.toNat - i.toNat)
    rw [minus?_eq, if_pos]
    unfold toRange at hi hle
    dsimp only at hi hle
    omega

/-- Of a range whose length fits, whatever is asked for fits. -/
theorem nth?_eq (hlen : r.toRange.length < UInt64.size) (hwidth : r.width < widthLimit)
    (i : UInt64) : r.nth? i = some (r.toRange.nth? i.toNat) := by
  have hlength := r.length?_eq
  rw [if_pos hlen] at hlength
  obtain ⟨n, hn, hnat⟩ := Option.map_eq_some_iff.mp hlength
  rw [nth?, hn, Option.bind_eq_bind, Option.bind_some]
  have hlt : i < n ↔ i.toNat < r.toRange.length := by
    rw [UInt64.lt_iff_toNat_lt, hnat]
  split
  · rename_i hin
    obtain ⟨x, hx, hxnat⟩ := Option.map_eq_some_iff.mp (number?_eq (hlt.mp hin))
    have hfilled : filled? r.width x =
        some (String.ofList (padded r.width (r.toRange.number i.toNat))) := by
      rw [filled?, if_pos hwidth, hxnat]
    rw [hx, Option.bind_some, hfilled, Range.nth?_of_lt (hlt.mp hin)]
    rfl
  · rename_i hout
    rw [Range.nth?_of_le (Nat.le_of_not_lt fun h => hout (hlt.mpr h))]
    rfl

/-- Nothing that a range is asked for leaves the words that it is kept in. -/
structure Fits (r : WordRange) : Prop where
  length : r.length?.map UInt64.toNat = some r.toRange.length
  increment : r.increment = r.toRange.increment
  nth : ∀ i, r.nth? i = some (r.toRange.nth? i.toNat)

theorem fits_of_lt (hlen : r.toRange.length < UInt64.size) (hwidth : r.width < widthLimit) :
    r.Fits where
  length := by rw [length?_eq, if_pos hlen]
  increment := r.increment_eq
  nth := nth?_eq hlen hwidth

theorem toRange_ofNat {a b : Nat} (ha : a < UInt64.size) (hb : b < UInt64.size) (width : Nat) :
    toRange ⟨.ofNat a, .ofNat b, width⟩ = ⟨a, b, width⟩ := by
  unfold toRange
  dsimp only
  rw [UInt64.toNat_ofNat_of_lt' ha, UInt64.toNat_ofNat_of_lt' hb]

theorem toRange_parse (label first last : String) :
    (parse label first last).map toRange = Range.parse label first last := by
  rw [parse, Range.parse]
  cases hfirst : Range.parseEnd "first" label first with
  | error e => rfl
  | ok a =>
    cases hlast : Range.parseEnd "last" label last with
    | error e => rfl
    | ok b =>
      have hrange := toRange_ofNat (Range.parseEnd_eq_ok_iff.mp hfirst).2
        (Range.parseEnd_eq_ok_iff.mp hlast).2 first.utf8ByteSize
      have hsome := isSome_length?_iff ⟨.ofNat a, .ofNat b, first.utf8ByteSize⟩
      rw [hrange] at hsome
      show Except.map toRange (if (length? ⟨.ofNat a, .ofNat b, first.utf8ByteSize⟩).isSome
        then _ else _) = if (Range.mk a b first.utf8ByteSize).length < UInt64.size then _ else _
      by_cases hlen : (Range.mk a b first.utf8ByteSize).length < UInt64.size
      · rw [if_pos (hsome.mpr hlen), if_pos hlen]
        exact congrArg Except.ok hrange
      · rw [if_neg (mt hsome.mp hlen), if_neg hlen]
        rfl

theorem exists_parse_eq_ok {label first last : String} {r : Range}
    (h : Range.parse label first last = .ok r) :
    ∃ w, parse label first last = .ok w ∧ w.toRange = r := by
  rw [← toRange_parse] at h
  cases hw : parse label first last with
  | error e =>
    rw [hw] at h
    cases h
  | ok w =>
    rw [hw] at h
    exact ⟨w, rfl, Except.ok.inj h⟩

theorem exists_fits {label first last : String} {r : Range}
    (hwidth : first.utf8ByteSize < widthLimit) (h : Range.parse label first last = .ok r) :
    ∃ w, parse label first last = .ok w ∧ w.toRange = r ∧ w.Fits := by
  obtain ⟨w, hw, rfl⟩ := exists_parse_eq_ok h
  obtain ⟨-, -, hlen, hbytes⟩ := Range.parse_eq_ok_iff.mp h
  have hfew : w.width < widthLimit := Nat.lt_of_le_of_lt (Nat.le_of_eq hbytes) hwidth
  exact ⟨w, hw, rfl, fits_of_lt hlen hfew⟩

end WordRange

/-! ## Ranges that are read -/

/-- The least and the greatest word, in either order. -/
def IsWidest (a b : Nat) : Prop :=
  (a = 0 ∧ b = UInt64.size - 1) ∨ (a = UInt64.size - 1 ∧ b = 0)

theorem span_lt_iff {a b : Nat} (ha : a < UInt64.size) (hb : b < UInt64.size) :
    span a b < UInt64.size ↔ ¬ IsWidest a b := by
  have hsize : UInt64.size = 2 ^ 64 := rfl
  unfold span IsWidest
  omega

namespace Range

/-- A range from `a` to `b` as the integers give it. -/
structure IsExact (r : Range) (a b : Nat) : Prop where
  length_eq : r.length = span a b
  length_lt : r.length < UInt64.size
  up_iff : r.increment = .up ↔ a ≤ b
  some_iff : ∀ i, (∃ s, r.nth? i = some s) ↔ i < r.length
  value_eq : ∀ i s, r.nth? i = some s → AllDigits s.toList ∧
    (value s.toList : Int) = a + i * r.increment.step
  between : ∀ i s, r.nth? i = some s → min a b ≤ value s.toList ∧ value s.toList ≤ max a b
  reaches : ∃ s, r.nth? (r.length - 1) = some s ∧ value s.toList = b

variable {r : Range}

theorem isExact (h : r.length < UInt64.size) : r.IsExact r.first r.last where
  length_eq := r.length_eq_span
  length_lt := h
  up_iff := up_iff
  some_iff i := by simp only [nth?_eq_some_iff, exists_and_left, exists_eq, and_true]
  value_eq i s hs := by
    obtain ⟨hi, hd, hvalue⟩ := digits_of_nth? hs
    rw [hvalue]
    exact ⟨hd, cast_number hi⟩
  between i s hs := by
    obtain ⟨hi, -, hvalue⟩ := digits_of_nth? hs
    rw [hvalue]
    exact number_between hi
  reaches := by
    have hlast := nth?_of_lt (r := r) (i := r.length - 1) (Nat.sub_lt (Nat.succ_pos _) Nat.one_pos)
    refine ⟨_, hlast, ?_⟩
    rw [(digits_of_nth? hlast).2.2, number_last]

/-- The ends are numbers in words, with or without a plus sign, and only the least and the greatest
word are too far from each other. Then the range is exact, and all of it is worked out in words
without an overflow. -/
theorem parse_exact (label : String) {first last : String}
    (hwidth : first.utf8ByteSize < widthLimit) :
    ((∃ r, parse label first last = .ok r) ↔
      ∃ a b, (IsUnsigned first.toList a ∧ a < UInt64.size) ∧
        (IsUnsigned last.toList b ∧ b < UInt64.size) ∧ ¬ IsWidest a b) ∧
    ∀ r, parse label first last = .ok r →
      (∀ a b, IsUnsigned first.toList a → IsUnsigned last.toList b → r.IsExact a b) ∧
      ∃ w, WordRange.parse label first last = .ok w ∧ w.toRange = r ∧ w.Fits := by
  refine ⟨⟨?_, ?_⟩, ?_⟩
  · rintro ⟨r, h⟩
    obtain ⟨hfirst, hlast, hlen, -⟩ := parse_eq_ok_iff.mp h
    rw [length_eq_span] at hlen
    exact ⟨_, _, hfirst, hlast, (span_lt_iff hfirst.2 hlast.2).mp hlen⟩
  · rintro ⟨a, b, hfirst, hlast, hnot⟩
    have hlen := (span_lt_iff hfirst.2 hlast.2).mpr hnot
    rw [← length_eq_span ⟨a, b, first.utf8ByteSize⟩] at hlen
    exact ⟨_, parse_eq_ok_iff.mpr ⟨hfirst, hlast, hlen, rfl⟩⟩
  · intro r h
    obtain ⟨⟨hfirst, -⟩, ⟨hlast, -⟩, hlen, -⟩ := parse_eq_ok_iff.mp h
    refine ⟨fun a b ha hb => ?_, WordRange.exists_fits hwidth h⟩
    rw [ha.unique hfirst, hb.unique hlast]
    exact isExact hlen

/-- The greatest word is read, also with a plus sign, and down to one there are as many numbers as
can be counted; down to zero there is one more. -/
theorem parse_exact_greatest :
    (∃ r, parse "imsi" "+18446744073709551615" "1" = .ok r ∧ r.IsExact (UInt64.size - 1) 1 ∧
      ∃ w, WordRange.parse "imsi" "+18446744073709551615" "1" = .ok w ∧ w.Fits) ∧
    ¬ ∃ r, parse "imsi" "18446744073709551615" "0" = .ok r := by
  have hgreatest : IsUnsigned "+18446744073709551615".toList (UInt64.size - 1) :=
    (unsigned?_eq_some_iff.mp (show unsigned? UInt64.size _ = _ by decide +kernel)).1
  have hplain : IsUnsigned "18446744073709551615".toList (UInt64.size - 1) :=
    (unsigned?_eq_some_iff.mp (show unsigned? UInt64.size _ = _ by decide +kernel)).1
  have hone : IsUnsigned "1".toList 1 :=
    (unsigned?_eq_some_iff.mp (show unsigned? UInt64.size _ = _ by decide +kernel)).1
  have hzero : IsUnsigned "0".toList 0 :=
    (unsigned?_eq_some_iff.mp (show unsigned? UInt64.size _ = _ by decide +kernel)).1
  obtain ⟨hread, hexact⟩ := @parse_exact "imsi" "+18446744073709551615" "1" (by decide +kernel)
  obtain ⟨r, hr⟩ := hread.mpr
    ⟨_, _, ⟨hgreatest, by decide⟩, ⟨hone, by decide⟩, by unfold IsWidest; decide⟩
  obtain ⟨hr', w, hw, -, hfits⟩ := hexact r hr
  refine ⟨⟨r, hr, hr' _ _ hgreatest hone, w, hw, hfits⟩, fun hwide => ?_⟩
  obtain ⟨a, b, ⟨ha, -⟩, ⟨hb, -⟩, hnot⟩ := (@parse_exact "imsi" "18446744073709551615" "0"
    (by decide +kernel)).1.mp hwide
  exact hnot (Or.inr ⟨ha.unique hplain, hb.unique hzero⟩)

end Range

end Provisioning.Batch
