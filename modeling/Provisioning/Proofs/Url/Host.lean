import Provisioning.Proofs.Text.Decimal
import Provisioning.Proofs.Text.Split
import Provisioning.Proofs.Text.Utf8
import Provisioning.Url.Host
/-!
# Hosts that are none

A host that ends in a colon and a port is refused, whatever stands in front of the colon. What is
done to a name leaves such an end as it is, and a name has no colon.

* `Percent.decode_append` : a byte that no percent sign reaches past;
* `Unicode.exists_normalize_append` : characters of ASCII at the end stay there;
* `Domain.exists_mapped_append` : so does what no mapping changes;
* `Domain.toAscii?_eq_none` : a name with such a colon is refused;
* `Host.parse_port` : so is a host.
-/

namespace Provisioning
open Text

/-! ## Percent encoding -/

namespace Percent

/-- Two digits at the front. -/
def startsWithCode : List UInt8 → Bool
  | a :: b :: _ => (digit? a).isSome && (digit? b).isSome
  | _ => false

theorem startsWithCode_append {c : UInt8} (h : digit? c = none) (x y : List UInt8) :
    startsWithCode (x ++ c :: y) = startsWithCode x := by
  rcases x with - | ⟨a, - | ⟨b, x⟩⟩
  · cases y <;> simp [startsWithCode, h]
  · simp [startsWithCode, h]
  · rfl

theorem decode_cons_of_ne {c : UInt8} (h : c ≠ 0x25) (r : List UInt8) :
    decode (c :: r) = c :: decode r := by
  rcases r with - | ⟨a, - | ⟨b, r⟩⟩
  · rfl
  · rfl
  · rw [decode, if_neg (by simpa using h)]

theorem decode_code {a b : UInt8} {m n : Nat} (ha : digit? a = some m) (hb : digit? b = some n)
    (r : List UInt8) : decode (0x25 :: a :: b :: r) = UInt8.ofNat (m * 16 + n) :: decode r := by
  rw [decode, if_pos (by decide), ha, hb]

/-- A percent sign with no two digits behind it stands for itself. -/
theorem decode_sign {r : List UInt8} (h : startsWithCode r = false) :
    decode (0x25 :: r) = 0x25 :: decode r := by
  rcases r with - | ⟨a, - | ⟨b, r⟩⟩
  · rfl
  · rfl
  · rw [decode, if_pos (by decide)]
    change ((digit? a).isSome && (digit? b).isSome) = false at h
    cases ha : digit? a with
    | none => rfl
    | some m =>
      cases hb : digit? b with
      | none => rfl
      | some n =>
        rw [ha, hb] at h
        cases h

/-- What stands in front of a byte that is no digit and no percent sign is read without it. -/
theorem decode_append {c : UInt8} (hsign : c ≠ 0x25) (hdigit : digit? c = none) (x y : List UInt8) :
    decode (x ++ c :: y) = decode x ++ c :: decode y := by
  induction hn : x.length using Nat.strongRecOn generalizing x with
  | ind n ih =>
  subst hn
  rcases x with - | ⟨a, x⟩
  · exact decode_cons_of_ne hsign y
  have htail := ih x.length (Nat.lt_succ_self _) x rfl
  rw [List.cons_append]
  by_cases ha : a = 0x25
  · subst ha
    have hsame := startsWithCode_append hdigit x y
    cases hcode : startsWithCode x with
    | false =>
      rw [hcode] at hsame
      rw [decode_sign hsame, decode_sign hcode, htail, List.cons_append]
    | true =>
      rcases x with - | ⟨p, - | ⟨q, x⟩⟩
      · cases hcode
      · cases hcode
      · obtain ⟨hp, hq⟩ := (Bool.and_eq_true _ _).mp hcode
        obtain ⟨m, hm⟩ := Option.isSome_iff_exists.mp hp
        obtain ⟨k, hk⟩ := Option.isSome_iff_exists.mp hq
        have hrest := ih x.length (by simp only [List.length_cons]; omega) x rfl
        rw [List.cons_append, List.cons_append, decode_code hm hk, decode_code hm hk, hrest,
          List.cons_append]
  · rw [decode_cons_of_ne ha, decode_cons_of_ne ha, htail, List.cons_append]

theorem decode_eq_self {bytes : List UInt8} (h : ∀ b ∈ bytes, b ≠ 0x25) : decode bytes = bytes := by
  induction bytes with
  | nil => rfl
  | cons b bytes ih =>
    rw [decode_cons_of_ne (h b List.mem_cons_self),
      ih fun c hc => h c (List.mem_cons_of_mem _ hc)]

end Percent

/-! ## Letters and marks -/

namespace Unicode

theorem combiningClass_of_lt {c : Char} (h : c.toNat < 0x300) : combiningClass c = 0 :=
  if_pos h

theorem decompose_of_lt {c : Char} (h : c.toNat < 0xC0) (n : Nat) : decompose n c = [c] := by
  cases n with
  | zero => rfl
  | succ n =>
    have hparts : parts? c = none := if_pos h
    rw [decompose, hparts]

theorem absorb?_of_lt {c : Char} (h : c.toNat < 0x300) (b : Base) : b.absorb? c = none := by
  have hhangul : Hangul.whole? b.char c = none := by
    unfold Hangul.whole? Hangul.lead Hangul.vowel Hangul.syllable Hangul.tail
    dsimp only
    rw [if_neg (by simp; omega), if_neg (by simp; omega)]
  have hwhole : whole? b.char c = none := by
    rw [whole?, hhangul]
    exact if_pos h
  unfold Base.absorb?
  rw [hwhole]
  split <;> rfl

theorem settle_of_lt {d : Char} (h : d.toNat < 0x300) (c : Char) (r : List Char) :
    settle c (d :: r) = c :: d :: r := by
  rw [settle, combiningClass_of_lt h]
  rfl

theorem reorder_of_lt {t : List Char} (h : ∀ c ∈ t, c.toNat < 0x300) : reorder t = t := by
  induction t with
  | nil => rfl
  | cons c t ih =>
    have hrest := ih fun d hd => h d (List.mem_cons_of_mem _ hd)
    rw [reorder, List.foldr_cons, ← reorder, hrest]
    rcases t with - | ⟨d, t⟩
    · rfl
    · exact settle_of_lt (h d (by simp)) c t

theorem exists_settle_append {d : Char} (h : d.toNat < 0x300) (c : Char) (s t : List Char) :
    ∃ r, settle c (s ++ d :: t) = r ++ d :: t := by
  induction s with
  | nil => exact ⟨[c], settle_of_lt h c t⟩
  | cons e s ih =>
    rw [List.cons_append, settle]
    split
    · obtain ⟨r, hr⟩ := ih
      exact ⟨e :: r, congrArg (e :: ·) hr⟩
    · exact ⟨c :: e :: s, rfl⟩

theorem exists_reorder_append {d : Char} {t : List Char} (h : ∀ c ∈ d :: t, c.toNat < 0x300)
    (s : List Char) : ∃ r, reorder (s ++ d :: t) = r ++ d :: t := by
  induction s with
  | nil => exact ⟨[], reorder_of_lt h⟩
  | cons c s ih =>
    obtain ⟨r, hr⟩ := ih
    rw [List.cons_append, reorder, List.foldr_cons, ← reorder, hr]
    exact exists_settle_append (h d (by simp)) c r t

theorem composeFrom_some_of_lt {t : List Char} (h : ∀ c ∈ t, c.toNat < 0x300) (b : Base) :
    composeFrom (some b) t = b.toList ++ t := by
  induction t generalizing b with
  | nil => exact (List.append_nil _).symm
  | cons c t ih =>
    have hc := h c List.mem_cons_self
    rw [composeFrom, absorb?_of_lt hc, ih fun d hd => h d (List.mem_cons_of_mem _ hd)]
    exact if_pos (combiningClass_of_lt hc)

theorem exists_composeFrom_append {t : List Char} (h : ∀ c ∈ t, c.toNat < 0x300) (s : List Char)
    (b : Option Base) : ∃ r, composeFrom b (s ++ t) = r ++ t := by
  induction s generalizing b with
  | nil =>
    cases b with
    | some b => exact ⟨b.toList, composeFrom_some_of_lt h b⟩
    | none =>
      rcases t with - | ⟨c, t⟩
      · exact ⟨[], rfl⟩
      · refine ⟨[], ?_⟩
        rw [List.nil_append, composeFrom, if_pos (combiningClass_of_lt (h c List.mem_cons_self)),
          composeFrom_some_of_lt fun d hd => h d (List.mem_cons_of_mem _ hd)]
        rfl
  | cons c s ih =>
    cases b with
    | none =>
      rw [List.cons_append, composeFrom]
      split
      · exact ih _
      · obtain ⟨r, hr⟩ := ih none
        exact ⟨c :: r, congrArg (c :: ·) hr⟩
    | some b =>
      rw [List.cons_append, composeFrom]
      split
      · exact ih _
      · split
        · obtain ⟨r, hr⟩ := ih (some ⟨c, []⟩)
          exact ⟨b.toList ++ r, by rw [hr, List.append_assoc]⟩
        · exact ih _

theorem exists_normalize_append {t : List Char} (h : ∀ c ∈ t, c.toNat < 0x80) (hne : t ≠ [])
    (s : List Char) : ∃ r, normalize (s ++ t) = r ++ t := by
  have hmark : ∀ c ∈ t, c.toNat < 0x300 := fun c hc => Nat.lt_trans (h c hc) (by decide)
  have hdecompose : t.flatMap (decompose depth) = t := by
    have hself : ∀ c ∈ t, decompose depth c = [c] := fun c hc =>
      decompose_of_lt (Nat.lt_trans (h c hc) (by decide)) depth
    rw [List.flatMap_def, List.map_congr_left hself, ← List.flatMap_def, List.flatMap_singleton']
  obtain ⟨d, t, rfl⟩ := List.exists_cons_of_ne_nil hne
  unfold normalize compose
  rw [List.flatMap_append, hdecompose]
  obtain ⟨r, hr⟩ := exists_reorder_append hmark (s.flatMap (decompose depth))
  rw [hr]
  exact exists_composeFrom_append hmark r none

end Unicode

/-! ## Domain names -/

namespace Domain
open Unicode

/-- A character of ASCII that no mapping changes. -/
def IsPlain (c : Char) : Prop := c.toNat < 0x80 ∧ c.isUpper = false

theorem mappedChar?_of_isPlain {c : Char} (h : IsPlain c) : mappedChar? c = some [c] := by
  have htreatment : treatment c = .keep := by
    unfold treatment
    rw [if_pos h.1, h.2]
    rfl
  rw [mappedChar?, htreatment]

theorem exists_mapped_append {s t u : List Char} (ht : ∀ c ∈ t, IsPlain c) (hne : t ≠ [])
    (h : mapped? (s ++ t) = some u) : ∃ r, u = r ++ t := by
  have hkept : t.mapM mappedChar? = some (t.map fun c => [c]) := by
    clear h hne
    induction t with
    | nil => rfl
    | cons c t ih =>
      rw [List.mapM_cons, mappedChar?_of_isPlain (ht c List.mem_cons_self),
        ih fun d hd => ht d (List.mem_cons_of_mem _ hd)]
      rfl
  unfold mapped? at h
  rw [List.mapM_append, hkept] at h
  obtain ⟨ts, hts, rfl⟩ := Option.map_eq_some_iff.mp h
  obtain ⟨front, -, hfront⟩ := Option.bind_eq_some_iff.mp hts
  obtain rfl := Option.some.inj hfront
  have hflatten : (front ++ t.map fun c => [c]).flatten = front.flatten ++ t := by
    rw [List.flatten_append, ← List.flatMap_def, List.flatMap_singleton']
  rw [hflatten]
  exact exists_normalize_append (fun c hc => (ht c hc).1) hne _

theorem not_isDenied_dot : isDenied '.' = false := by decide

theorem mem_written {w : List Char} {l : Label} {c : Char} (h : Label.ofText? w = some l)
    (hc : c ∈ w) (hascii : c.toNat < 0x80) : c ∈ l.written := by
  unfold Label.ofText? at h
  split at h
  · obtain ⟨t, -, ht⟩ := Option.bind_eq_some_iff.mp h
    split at ht
    · obtain rfl := Option.some.inj ht
      exact hc
    · cases ht
  · split at h
    · obtain rfl := Option.some.inj h
      exact hc
    · split at h
      · obtain rfl := Option.some.inj h
        have hbasic : c ∈ w.filter Punycode.isAscii :=
          List.mem_filter.mpr ⟨hc, decide_eq_true hascii⟩
        refine List.mem_append_right _ ?_
        exact List.mem_append_left _ (List.mem_append_left _ hbasic)
      · cases h

theorem exists_label_of_mem {ws : List (List Char)} {ls : List Label} {w : List Char}
    (h : ws.mapM Label.ofText? = some ls) (hw : w ∈ ws) :
    ∃ l ∈ ls, Label.ofText? w = some l := by
  induction ws generalizing ls with
  | nil => cases hw
  | cons v ws ih =>
    rw [List.mapM_cons] at h
    obtain ⟨m, hm, h⟩ := Option.bind_eq_some_iff.mp h
    obtain ⟨ms, hms, h⟩ := Option.bind_eq_some_iff.mp h
    obtain rfl := Option.some.inj h
    rcases List.mem_cons.mp hw with rfl | hw
    · exact ⟨m, List.mem_cons_self, hm⟩
    · obtain ⟨l, hl, hlw⟩ := ih hms hw
      exact ⟨l, List.mem_cons_of_mem _ hl, hlw⟩

/-- A name that ends in characters of ASCII that no mapping changes is refused if one of them is
denied. -/
theorem toAscii?_eq_none {bytes : List UInt8} {t : List Char} {c : Char}
    (ht : ∀ c ∈ t, IsPlain c) (hc : c ∈ t) (hdenied : isDenied c = true) :
    toAscii? (bytes ++ Utf8.encode t) = none := by
  have hne : t ≠ [] := List.ne_nil_of_mem hc
  have hdot : c ≠ '.' := by
    rintro rfl
    exact Bool.noConfusion (not_isDenied_dot.symm.trans hdenied)
  rw [Option.eq_none_iff_forall_ne_some]
  intro name hname
  obtain ⟨text, htext, hread⟩ := Option.bind_eq_some_iff.mp hname
  obtain ⟨s, hs, hcut⟩ := Option.bind_eq_some_iff.mp hread
  obtain ⟨labels, hlabels, hjoined⟩ := Option.bind_eq_some_iff.mp hcut
  clear hname hread hcut
  obtain ⟨front, hfront, -⟩ := Utf8.exists_append_of_encode (fun d hd => (ht d hd).1)
    (Utf8.encode_of_decode? htext)
  rw [hfront] at hs
  obtain ⟨r, rfl⟩ := exists_mapped_append ht hne hs
  obtain ⟨w, hw, hcw⟩ := exists_mem_splitOn hdot (List.mem_append_right r hc)
  obtain ⟨l, hl, hlw⟩ := exists_label_of_mem hlabels hw
  have hwritten : c ∈ joinWith ['.'] (labels.map (·.written)) :=
    mem_joinWith ['.'] (List.mem_map_of_mem hl) (mem_written hlw hcw (ht c hc).1)
  have hany : (joinWith ['.'] (labels.map (·.written))).any isDenied = true :=
    List.any_eq_true.mpr ⟨c, hwritten, hdenied⟩
  dsimp only at hjoined
  rw [hany, Bool.not_true, Bool.and_false] at hjoined
  cases hjoined

end Domain

/-! ## Hosts -/

namespace Host
open Decimal

theorem isPlain_of_isDigit {c : Char} (h : c.isDigit = true) : Domain.IsPlain c := by
  obtain ⟨-, hhigh⟩ := digit_bounds h
  refine ⟨by omega, ?_⟩
  rw [← Bool.not_eq_true]
  intro hupper
  have hlow : (65 : UInt32) ≤ c.val := (of_decide_eq_true hupper).1
  have hle : 65 ≤ c.val.toNat := UInt32.le_iff_toNat_le.mp hlow
  have hval : c.val.toNat = c.toNat := rfl
  omega

theorem decode_encode_of_allDigits {t : List Char} (h : AllDigits t) :
    Percent.decode (Utf8.encode t) = Utf8.encode t := by
  apply Percent.decode_eq_self
  intro b hb
  obtain ⟨c, hc, hbc⟩ := List.mem_flatMap.mp hb
  obtain ⟨hlow, hhigh⟩ := digit_bounds (h c hc)
  rw [Utf8.utf8EncodeChar_of_lt (by omega), List.mem_singleton] at hbc
  subst hbc
  intro hsign
  have hval := congrArg UInt8.toNat hsign
  rw [UInt8.toNat_ofNat'] at hval
  have hsign : (0x25 : UInt8).toNat = 37 := rfl
  omega

theorem parseName_port (s : List Char) {t : List Char} (ht : AllDigits t) :
    parseName (s ++ ':' :: t) = .error .invalidInternationalDomain := by
  have hplain : ∀ c ∈ ':' :: t, Domain.IsPlain c := by
    intro c hc
    rcases List.mem_cons.mp hc with rfl | hc
    · exact ⟨by decide, by decide⟩
    · exact isPlain_of_isDigit (ht c hc)
  have hbytes : Percent.decode (Utf8.encode (s ++ ':' :: t)) =
      Percent.decode (Utf8.encode s) ++ Utf8.encode (':' :: t) := by
    rw [Utf8.encode_append]
    show Percent.decode (Utf8.encode s ++ 0x3A :: Utf8.encode t) = _
    rw [Percent.decode_append (by decide) (by decide), decode_encode_of_allDigits ht]
    rfl
  unfold parseName
  rw [hbytes, Domain.toAscii?_eq_none hplain List.mem_cons_self (by decide)]

/-- What ends in a colon and a port is no host. -/
theorem parse_port (s : List Char) {t : List Char} (ht : AllDigits t) :
    ∃ e, parse (s ++ ':' :: t) = .error e := by
  rcases s with - | ⟨c, s⟩
  · exact ⟨_, parseName_port [] ht⟩
  by_cases hc : c = '['
  · subst hc
    have hlast : (s ++ ':' :: t).getLast? ≠ some ']' := by
      intro hbracket
      have hmem : ']' ∈ ':' :: t := by
        rw [List.getLast?_append, List.getLast?_cons] at hbracket
        exact List.mem_of_getLast? (List.getLast?_cons.trans hbracket)
      rcases List.mem_cons.mp hmem with h | h
      · exact absurd h (by decide)
      · exact absurd (ht _ h) (by decide)
    exact ⟨_, if_neg hlast⟩
  · refine ⟨.invalidInternationalDomain, ?_⟩
    unfold parse
    split
    · rename_i r heq
      exact absurd (List.cons.inj heq).1 hc
    · exact parseName_port (c :: s) ht

end Host

end Provisioning
