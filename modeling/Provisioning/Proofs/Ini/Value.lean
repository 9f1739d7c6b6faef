import Provisioning.Proofs.Ini.Line
/-!
# Values that are read back

A value that starts with a quote is read up to the next quote, over the ends of lines.

* `IsSafe` : a value that is read back as it is; `isSafe` tests it; `readValue_of_isSafe`;
* `weight` : how many blanks and quotes a text has; what reading takes off or alters had weight;
* `HasQuote` : lines with a quote in a value;
* `readValue_textOf` : a value in front of lines that is not safe is not read at all, loses weight
  or swallows lines with a quote.
-/

namespace Provisioning.Ini
open Text

/-! ## Weights -/

def hasWeight (c : Char) : Bool := isBlank c || isQuote c

def weight (s : List Char) : Nat := s.countP hasWeight

theorem weight_append (s t : List Char) : weight (s ++ t) = weight s + weight t :=
  List.countP_append

theorem weight_of_allBlank {s : List Char} (h : AllBlank s) : weight s = s.length :=
  List.countP_eq_length.mpr fun c hc => by rw [hasWeight, h c hc, Bool.true_or]

theorem weight_cons_of_isQuote {q : Char} (hq : isQuote q = true) (s : List Char) :
    weight (q :: s) = weight s + 1 :=
  List.countP_cons_of_pos (by rw [hasWeight, hq, Bool.or_true])

theorem hasWeight_reread {c : Char} (h : hasWeight (reread c) = true) : hasWeight c = true := by
  unfold reread at h
  split at h
  · exact absurd h (by decide)
  · split at h
    · exact absurd h (by decide)
    · exact h

theorem weight_map_reread_le (s : List Char) : weight (s.map reread) ≤ weight s := by
  rw [weight, List.countP_map]
  exact List.countP_mono_left fun c _ h => hasWeight_reread h

/-- Only a tab or a feed is altered, and loses its weight. -/
theorem weight_map_reread_lt {s : List Char} {c : Char} (hc : c = '\x0b' ∨ c = '\x0c')
    (hs : c ∈ s) : weight (s.map reread) < weight s := by
  obtain ⟨front, back, rfl⟩ := List.append_of_mem hs
  have hfront := weight_map_reread_le front
  have hback := weight_map_reread_le back
  have hlost : weight ([c].map reread) + 1 = weight [c] := by
    rcases hc with rfl | rfl <;> decide
  rw [← List.singleton_append, List.map_append, List.map_append, weight_append, weight_append,
    weight_append, weight_append]
  omega

theorem weight_trim_le (s : List Char) : weight (trim s) ≤ weight s := by
  obtain ⟨front, back, hs, -, -⟩ := exists_trim s
  have hw := congrArg weight hs
  rw [weight_append, weight_append] at hw
  omega

theorem weight_trimEnd_le (s : List Char) : weight (trimEnd s) ≤ weight s := by
  obtain ⟨back, hs, -⟩ := exists_trimEnd s
  have hw := congrArg weight hs
  rw [weight_append] at hw
  omega

/-- A text that is trimmed loses weight, unless trimming leaves it as it is. -/
theorem trim_eq_self_of_weight {s : List Char} (h : weight (trim s) = weight s) : trim s = s := by
  obtain ⟨front, back, hs, hf, hb⟩ := exists_trim s
  have hw := congrArg weight hs
  rw [weight_append, weight_append, weight_of_allBlank hf, weight_of_allBlank hb] at hw
  have hfront : front = [] := List.eq_nil_of_length_eq_zero (by omega)
  have hback : back = [] := List.eq_nil_of_length_eq_zero (by omega)
  rw [hfront, hback, List.nil_append, List.append_nil] at hs
  exact hs.symm

/-! ## Safe values -/

def StartsQuoted (s : List Char) : Prop := ∃ q ∈ s.head?, isQuote q = true

structure IsSafe (v : List Char) : Prop where
  startsPlain : StartsPlain v
  endsPlain : EndsPlain v
  not_startsQuoted : ¬ StartsQuoted v
  no_tab : '\x0b' ∉ v
  no_feed : '\x0c' ∉ v

def isSafe (v : List Char) : Bool :=
  v.head?.all (fun c => !isBlank c && !isQuote c) && v.getLast?.all (!isBlank ·)
    && !v.contains '\x0b' && !v.contains '\x0c'

theorem isSafe_iff {v : List Char} : isSafe v = true ↔ IsSafe v := by
  simp only [isSafe, Bool.and_eq_true, Option.all_eq_true, Bool.not_eq_true', List.contains_eq_mem,
    decide_eq_false_iff_not]
  constructor
  · rintro ⟨⟨⟨hfirst, hlast⟩, htab⟩, hfeed⟩
    refine ⟨fun c hc => (hfirst c hc).1, hlast, ?_, htab, hfeed⟩
    rintro ⟨q, hq, hquote⟩
    exact absurd hquote (Bool.eq_false_iff.mp (hfirst q hq).2)
  · intro h
    refine ⟨⟨⟨fun c hc => ⟨h.startsPlain c hc, ?_⟩, h.endsPlain⟩, h.no_tab⟩, h.no_feed⟩
    exact Bool.eq_false_iff.mpr fun hquote => h.not_startsQuoted ⟨c, hc, hquote⟩

instance (v : List Char) : Decidable (IsSafe v) := decidable_of_iff _ isSafe_iff

theorem map_reread_eq_self {v : List Char} (ht : '\x0b' ∉ v) (hf : '\x0c' ∉ v) :
    v.map reread = v := by
  have hself : ∀ c ∈ v, reread c = c := fun c hc =>
    reread_eq_self (fun h => ht (h ▸ hc)) (fun h => hf (h ▸ hc))
  rw [List.map_congr_left hself, List.map_id']

/-! ## Blanks in front -/

/-- A value without the blanks in front that are written as they are. -/
def dropRaw (v : List Char) : List Char := v.dropWhile fun c => isBlank c && decide (IsRaw c)

theorem exists_dropRaw (v : List Char) : ∃ front, v = front ++ dropRaw v ∧ AllBlank front := by
  refine ⟨_, List.takeWhile_append_dropWhile.symm, fun c hc => ?_⟩
  have hall := List.all_eq_true.mp (List.all_takeWhile
    (p := fun c => isBlank c && decide (IsRaw c)) (l := v)) c hc
  exact ((Bool.and_eq_true _ _).mp hall).1

theorem dropRaw_of_startsPlain {v : List Char} (h : StartsPlain v) : dropRaw v = v := by
  cases v with
  | nil => rfl
  | cons c v =>
    rw [dropRaw, List.dropWhile_cons_of_neg]
    rw [h c rfl, Bool.false_and]
    exact Bool.false_ne_true

theorem dropWhile_escaped (v rest : List Char) :
    (v.flatMap escape ++ '\n' :: rest).dropWhile (fun c => isBlank c && !isLineEnd c) =
      (dropRaw v).flatMap escape ++ '\n' :: rest := by
  induction v with
  | nil => rfl
  | cons c v ih =>
    rw [dropRaw, List.flatMap_cons, List.append_assoc, List.dropWhile_cons]
    rcases isRaw_or_escaped c with ⟨hraw, hend⟩ | ⟨hraw, es, hes⟩
    · have hescape : escape c = [c] := hraw
      rw [hescape, List.singleton_append, List.dropWhile_cons, hend, decide_eq_true hraw]
      cases isBlank c with
      | true => exact ih
      | false =>
        simp only [Bool.false_and, Bool.false_eq_true, if_false]
        rw [List.flatMap_cons, hescape]
        rfl
    · rw [hes, List.cons_append, List.dropWhile_cons_of_neg (by decide), decide_eq_false hraw,
        Bool.and_false, if_neg Bool.false_ne_true, List.flatMap_cons, hes, List.append_assoc,
        List.cons_append]

/-! ## The last part of a value -/

/-- What is left of the last part of a value. -/
def trimmed (isFirst : Bool) (s : List Char) : List Char := if isFirst then trim s else trimEnd s

theorem weight_trimmed_le (isFirst : Bool) (s : List Char) :
    weight (trimmed isFirst s) ≤ weight s := by
  cases isFirst
  · exact weight_trimEnd_le s
  · exact weight_trim_le s

/-- A part without a quote in front ends with its line. -/
theorem readParts_unquoted {isFirst : Bool} {front w : List Char} (hw : ¬ StartsQuoted w)
    (rest : List Char) :
    readParts isFirst front (w.flatMap escape ++ '\n' :: rest) =
      .ok (front ++ trimmed isFirst (w.map reread), '\n' :: rest) := by
  have hline : readUntil ⟨isLineEnd, true⟩ [] (w.flatMap escape ++ '\n' :: rest) =
      .ok (w.map reread, '\n' :: rest) := by
    have hraw : ∀ c ∈ w, IsRaw c → isLineEnd c = false := by
      intro c _ hc
      rcases isRaw_or_escaped c with ⟨-, hend⟩ | ⟨hnot, -⟩
      · exact hend
      · exact absurd hc hnot
    rw [readUntil_escaped (by decide) hraw, readUntil_of_stop (by decide), List.append_nil,
      List.reverse_reverse]
  have hhead : ∃ d ds, w.flatMap escape ++ '\n' :: rest = d :: ds ∧ isQuote d = false := by
    rcases w with - | ⟨c, w⟩
    · exact ⟨'\n', rest, rfl, by decide⟩
    · rw [List.flatMap_cons]
      rcases isRaw_or_escaped c with ⟨hraw, -⟩ | ⟨-, es, hes⟩
      · refine ⟨c, _, by rw [(hraw : escape c = [c])]; rfl, ?_⟩
        exact Bool.eq_false_iff.mpr fun hq => hw ⟨c, rfl, hq⟩
      · exact ⟨'\\', _, by rw [hes]; rfl, by decide⟩
  obtain ⟨d, ds, hd, hquote⟩ := hhead
  rw [hd] at hline ⊢
  rw [readParts.eq_def]
  simp only [hquote, Bool.false_eq_true, if_false, hline]
  rfl

/-- A quoted part is read up to the next quote. -/
theorem readParts_quoted {isFirst : Bool} {front r : List Char} {q : Char}
    (hq : isQuote q = true) :
    readParts isFirst front (q :: r) =
      match readUntil ⟨(· == q), false⟩ [] r with
      | .error p => .error p
      | .ok (part, t) => readParts false (front ++ part) t.tail := by
  rw [readParts.eq_def]
  simp only [hq, if_true]
  split <;> rename_i h <;> rw [h]

/-! ## Quoted parts -/

/-- Lines one of which has a quote in its value. -/
def HasQuote (ls : List Line) : Prop :=
  ∃ key value, Line.entry key value ∈ ls ∧ ∃ q ∈ value, isQuote q = true

theorem isQuote_ne {q c : Char} (hq : isQuote q = true) (hc : isQuote c = false) :
    (c == q) = false :=
  beq_eq_false_iff_ne.mpr fun h => by rw [h, hq] at hc; cases hc

theorem readUntil_quote_escaped {q : Char} (hq : isQuote q = true) {front v : List Char}
    (hv : q ∉ v) (rest : List Char) :
    readUntil ⟨(· == q), false⟩ front (v.flatMap escape ++ rest) =
      readUntil ⟨(· == q), false⟩ ((v.map reread).reverse ++ front) rest := by
  have hstop : ∀ c ∈ v, (c == q) = false := fun c hc =>
    beq_eq_false_iff_ne.mpr fun h => hv (h ▸ hc)
  exact readUntil_escaped (isQuote_ne hq (by decide)) (fun c hc _ => hstop c hc) rest

theorem isRaw_of_isQuote {q : Char} (hq : isQuote q = true) : IsRaw q := by
  simp only [isQuote, Bool.or_eq_true, beq_iff_eq] at hq
  rcases hq with rfl | rfl <;> decide

/-- A part that is closed by the first of its quotes in a value. -/
theorem readUntil_quote_closed {q : Char} (hq : isQuote q = true) {front v : List Char}
    (hv : q ∉ v) (w rest : List Char) :
    readUntil ⟨(· == q), false⟩ front ((v ++ q :: w).flatMap escape ++ rest) =
      .ok (front.reverse ++ v.map reread, q :: (w.flatMap escape ++ rest)) := by
  have hraw : escape q = [q] := isRaw_of_isQuote hq
  rw [List.flatMap_append, List.append_assoc, readUntil_quote_escaped hq hv, List.flatMap_cons,
    hraw, List.append_assoc, List.singleton_append, readUntil_of_stop (beq_self_eq_true q),
    List.reverse_append, List.reverse_reverse]

/-- A part that is not closed in its own line runs on to a value that has its quote. -/
theorem readUntil_quote_textOf {q : Char} (hq : isQuote q = true) {ls : List Line}
    (hls : ∀ l ∈ ls, l.IsPlain) (front : List Char) :
    (∃ p, readUntil ⟨(· == q), false⟩ front (textOf ls) = .error p) ∨
      ∃ part ls₁ key v w ls₂, ls = ls₁ ++ .entry key (v ++ q :: w) :: ls₂ ∧
        readUntil ⟨(· == q), false⟩ front (textOf ls) =
          .ok (part, q :: (w.flatMap escape ++ '\n' :: textOf ls₂)) := by
  induction ls generalizing front with
  | nil => exact .inl ⟨⟨[], false⟩, by rw [textOf, List.flatMap_nil, readUntil.eq_def]; rfl⟩
  | cons l ls ih =>
    have hl := hls l List.mem_cons_self
    have hskip : ∀ front', readUntil ⟨(· == q), false⟩ front (textOf (l :: ls)) =
          readUntil ⟨(· == q), false⟩ front' (textOf ls) →
        (∃ p, readUntil ⟨(· == q), false⟩ front (textOf (l :: ls)) = .error p) ∨
          ∃ part ls₁ key v w ls₂, l :: ls = ls₁ ++ .entry key (v ++ q :: w) :: ls₂ ∧
            readUntil ⟨(· == q), false⟩ front (textOf (l :: ls)) =
              .ok (part, q :: (w.flatMap escape ++ '\n' :: textOf ls₂)) := by
      intro front' heq
      rw [heq]
      rcases ih (fun l' hl' => hls l' (List.mem_cons_of_mem l hl')) front' with
        herr | ⟨part, ls₁, key, v, w, ls₂, rfl, hok⟩
      · exact .inl herr
      · exact .inr ⟨part, l :: ls₁, key, v, w, ls₂, rfl, hok⟩
    have hword : ∀ {s : List Char}, IsWord s → ∀ c ∈ s, (c == q) = false ∧ c ≠ '\\' :=
      fun hs c hc => ⟨isQuote_ne hq (hs.inert hc).quote, (hs.inert hc).backslash⟩
    have hsign : ∀ c ∈ ['\n', '[', ']', '='], (c == q) = false ∧ c ≠ '\\' := by
      intro c hc
      have hall : ['\n', '[', ']', '='].all (fun c => !isQuote c && c != '\\') = true := by decide
      have hplain := List.all_eq_true.mp hall c hc
      rw [Bool.and_eq_true, Bool.not_eq_true', bne_iff_ne] at hplain
      exact ⟨isQuote_ne hq hplain.1, hplain.2⟩
    rw [textOf_cons] at hskip ⊢
    cases l with
    | gap => exact hskip _ (readUntil_append (fun c hc => hsign c (by simp_all [Line.text])) _)
    | header name =>
      refine hskip _ (readUntil_append (fun c hc => ?_) _)
      simp only [Line.text, List.mem_cons, List.mem_append, List.not_mem_nil, or_false] at hc
      rcases hc with rfl | hc | rfl | rfl
      · exact hsign _ (by decide)
      · exact hword hl c hc
      · exact hsign _ (by decide)
      · exact hsign _ (by decide)
    | entry key value =>
      have hfront : readUntil ⟨(· == q), false⟩ front ((Line.entry key value).text ++ textOf ls) =
          readUntil ⟨(· == q), false⟩ ('=' :: (key.reverse ++ front))
            (value.flatMap escape ++ '\n' :: textOf ls) := by
        rw [Line.text, List.append_assoc, readUntil_append (hword hl), List.cons_append,
          readUntil_raw (hsign _ (by decide)).1 (by decide), List.append_assoc]
        rfl
      by_cases hmem : q ∈ value
      · obtain ⟨v, w, rfl, hv⟩ := List.eq_append_cons_of_mem hmem
        have hclosed := hfront.trans (readUntil_quote_closed hq hv w _)
        exact .inr ⟨_, [], key, v, w, ls, rfl, hclosed⟩
      · rw [readUntil_quote_escaped hq hmem, readUntil_raw (hsign _ (by decide)).1 (by decide)]
          at hfront
        exact hskip _ hfront

/-- The parts of a value, in front of lines, give back no more than the weight of the value, or
swallow lines with a quote. -/
theorem readParts_textOf (isFirst : Bool) (front w : List Char) {ls : List Line}
    (hls : ∀ l ∈ ls, l.IsPlain) :
    (∃ p, readParts isFirst front (w.flatMap escape ++ '\n' :: textOf ls) = .error p) ∨
      ∃ val ls₁ ls₂, ls = ls₁ ++ ls₂ ∧
        readParts isFirst front (w.flatMap escape ++ '\n' :: textOf ls) =
          .ok (val, '\n' :: textOf ls₂) ∧
        ((ls₁ = [] ∧ weight val ≤ weight front + weight w ∧
          (StartsQuoted w → weight val < weight front + weight w)) ∨ HasQuote ls₁) := by
  by_cases hw : StartsQuoted w
  · obtain ⟨q, hhead, hq⟩ := hw
    rcases w with - | ⟨d, w⟩
    · cases hhead
    obtain rfl : d = q := Option.some.inj hhead
    have hraw : escape d = [d] := isRaw_of_isQuote hq
    have hcons : (d :: w).flatMap escape ++ '\n' :: textOf ls =
        d :: (w.flatMap escape ++ '\n' :: textOf ls) := by
      rw [List.flatMap_cons, hraw]
      rfl
    rw [hcons, readParts_quoted hq]
    by_cases hmem : d ∈ w
    · -- The part is closed in its own line, and the rest of the value is shorter.
      obtain ⟨v, u, rfl, hv⟩ := List.eq_append_cons_of_mem hmem
      rw [readUntil_quote_closed hq hv]
      have hvle := weight_map_reread_le v
      have hsum : weight (d :: (v ++ d :: u)) = weight v + weight u + 2 := by
        rw [weight_cons_of_isQuote hq, weight_append, weight_cons_of_isQuote hq]
        omega
      rcases readParts_textOf false (front ++ ([].reverse ++ v.map reread)) u hls with
        herr | ⟨val, ls₁, ls₂, hsplit, hok, ⟨hnil, hle, -⟩ | hquote⟩
      · exact .inl herr
      · rw [weight_append, List.reverse_nil, List.nil_append] at hle
        refine .inr ⟨val, ls₁, ls₂, hsplit, hok, .inl ⟨hnil, ?_, fun _ => ?_⟩⟩ <;> omega
      · exact .inr ⟨val, ls₁, ls₂, hsplit, hok, .inr hquote⟩
    · -- The part runs on, to a value in the lines behind.
      rw [readUntil_quote_escaped hq hmem,
        readUntil_raw (isQuote_ne hq (by decide)) (by decide)]
      rcases readUntil_quote_textOf hq hls _ with ⟨p, hp⟩ | ⟨part, ls₁, key, v, u, ls₂, rfl, hok⟩
      · rw [hp]
        exact .inl ⟨p, rfl⟩
      · rw [hok]
        have hls₂ : ∀ l ∈ ls₂, l.IsPlain := fun l hl =>
          hls l (List.mem_append_right _ (List.mem_cons_of_mem _ hl))
        rcases readParts_textOf false (front ++ part) u hls₂ with
          herr | ⟨val, ls₃, ls₄, rfl, hrest, -⟩
        · exact .inl herr
        · refine .inr ⟨val, ls₁ ++ .entry key (v ++ d :: u) :: ls₃, ls₄, ?_, hrest, .inr ?_⟩
          · rw [List.append_assoc, List.cons_append]
          · exact ⟨key, _, List.mem_append_right _ List.mem_cons_self, d,
              List.mem_append_right _ List.mem_cons_self, hq⟩
  · refine .inr ⟨_, [], ls, rfl, readParts_unquoted hw _, .inl ⟨rfl, ?_, fun h => absurd h hw⟩⟩
    have hle := weight_trimmed_le isFirst (w.map reread)
    have hread := weight_map_reread_le w
    rw [weight_append]
    omega
termination_by (ls.length, w.length)

/-! ## Values -/

theorem readValue_of_isSafe {v : List Char} (hv : IsSafe v) (rest : List Char) :
    readValue (v.flatMap escape ++ '\n' :: rest) = .ok (v, '\n' :: rest) := by
  rw [readValue, dropWhile_escaped, dropRaw_of_startsPlain hv.startsPlain,
    readParts_unquoted hv.not_startsQuoted, map_reread_eq_self hv.no_tab hv.no_feed, trimmed,
    if_pos rfl, trim_eq_self hv.startsPlain hv.endsPlain, List.nil_append]

/-- A value without a quote in front that keeps its weight is safe. -/
theorem isSafe_of_weight {v : List Char} (hquote : ¬ StartsQuoted (dropRaw v))
    (h : weight (trim ((dropRaw v).map reread)) = weight v) : IsSafe v := by
  obtain ⟨front, hfront, hblank⟩ := exists_dropRaw v
  have hsum := congrArg weight hfront
  rw [weight_append, weight_of_allBlank hblank] at hsum
  have htrim := weight_trim_le ((dropRaw v).map reread)
  have hread := weight_map_reread_le (dropRaw v)
  have hnil : front = [] := List.eq_nil_of_length_eq_zero (by omega)
  rw [hnil, List.nil_append] at hfront
  rw [← hfront] at h hquote htrim
  have hkeep : ∀ c : Char, c = '\x0b' ∨ c = '\x0c' → c ∉ v := by
    intro c hc hmem
    have hlost := weight_map_reread_lt hc hmem
    omega
  have hself := map_reread_eq_self (hkeep _ (.inl rfl)) (hkeep _ (.inr rfl))
  rw [hself] at h
  have hends := trim_eq_self_of_weight h
  exact {
    startsPlain := hends ▸ startsPlain_trim v
    endsPlain := hends ▸ endsPlain_trim v
    not_startsQuoted := hquote
    no_tab := hkeep _ (.inl rfl)
    no_feed := hkeep _ (.inr rfl) }

/-- A value in front of lines that is read at all keeps its weight only if it is safe or lines with
a quote are swallowed. -/
theorem readValue_textOf (v : List Char) {ls : List Line} (hls : ∀ l ∈ ls, l.IsPlain) :
    (∃ p, readValue (v.flatMap escape ++ '\n' :: textOf ls) = .error p) ∨
      ∃ val ls₁ ls₂, ls = ls₁ ++ ls₂ ∧
        readValue (v.flatMap escape ++ '\n' :: textOf ls) = .ok (val, '\n' :: textOf ls₂) ∧
        ((ls₁ = [] ∧ (weight val = weight v → IsSafe v)) ∨ HasQuote ls₁) := by
  rw [readValue, dropWhile_escaped]
  by_cases hquote : StartsQuoted (dropRaw v)
  · rcases readParts_textOf true [] (dropRaw v) hls with
      herr | ⟨val, ls₁, ls₂, hsplit, hok, ⟨hnil, -, hlt⟩ | hswallow⟩
    · exact .inl herr
    · refine .inr ⟨val, ls₁, ls₂, hsplit, hok, .inl ⟨hnil, fun hw => ?_⟩⟩
      obtain ⟨front, hfront, -⟩ := exists_dropRaw v
      have hsum := congrArg weight hfront
      have hlost := hlt hquote
      rw [weight_append] at hsum
      rw [show weight [] = 0 from rfl] at hlost
      omega
    · exact .inr ⟨val, ls₁, ls₂, hsplit, hok, .inr hswallow⟩
  · exact .inr ⟨_, [], ls, rfl, readParts_unquoted hquote _,
      .inl ⟨rfl, fun hw => isSafe_of_weight hquote hw⟩⟩

end Provisioning.Ini
