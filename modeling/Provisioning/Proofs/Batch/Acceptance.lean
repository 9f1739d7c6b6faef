import Provisioning.Proofs.Batch.Range
/-!
# Which declarations are accepted

A declaration is checked field by field, and then its three families are counted.

* `Declaration.checks` : the ten checks in their order;
* `Declaration.ranges`, `Declaration.accepted` : what an accepted declaration stands for;
* `FailsFirst` : the label and the value of the first check that fails;
* `Outcome` : the result of a list of checks with more behind them; `Outcome.bind` adds a check;
* `descriptor_eq_ok_iff` : a declaration is accepted if all checks hold and each family has the
  declared length, and what it is accepted as;
* `descriptor_decided` : that, which check a rejection names, and when the lengths are named;
* `sample` : a declaration that is accepted.
-/

namespace Provisioning.Batch
open Decimal

/-! ## Runs of checks -/

/-- `label` and `value` belong to the first of the checks that fails. -/
def FailsFirst (cs : List Check) (label value : String) : Prop :=
  ∃ front c back, cs = front ++ c :: back ∧ (∀ x ∈ front, x.Holds) ∧ ¬ c.Holds ∧
    c.label = label ∧ c.value = value

theorem FailsFirst.head {c : Check} {cs : List Check} (h : ¬ c.Holds) :
    FailsFirst (c :: cs) c.label c.value :=
  ⟨[], c, cs, rfl, fun _ hx => absurd hx List.not_mem_nil, h, rfl, rfl⟩

theorem FailsFirst.tail {c : Check} {cs : List Check} {label value : String} (hc : c.Holds)
    (h : FailsFirst cs label value) : FailsFirst (c :: cs) label value := by
  obtain ⟨front, d, back, rfl, hfront, hd, hl, hv⟩ := h
  refine ⟨c :: front, d, back, rfl, fun x hx => ?_, hd, hl, hv⟩
  rcases List.mem_cons.mp hx with rfl | hx
  · exact hc
  · exact hfront x hx

theorem FailsFirst.not_all {cs : List Check} {label value : String}
    (h : FailsFirst cs label value) : ¬ ∀ c ∈ cs, c.Holds := by
  obtain ⟨front, c, back, rfl, -, hc, -, -⟩ := h
  exact fun hall => hc (hall c (by simp))

theorem FailsFirst.unique {cs : List Check} {l v l' v' : String} (h : FailsFirst cs l v)
    (h' : FailsFirst cs l' v') : l = l' ∧ v = v' := by
  induction cs with
  | nil =>
    obtain ⟨front, c, back, heq, -⟩ := h
    exact absurd heq (by simp)
  | cons d cs ih =>
    have split : ∀ {a b : String}, FailsFirst (d :: cs) a b →
        (¬ d.Holds ∧ d.label = a ∧ d.value = b) ∨ (d.Holds ∧ FailsFirst cs a b) := by
      rintro a b ⟨front, c, back, heq, hfront, hc, hl, hv⟩
      cases front with
      | nil =>
        injection heq with h1 h2
        subst h1
        exact Or.inl ⟨hc, hl, hv⟩
      | cons e front =>
        injection heq with h1 h2
        subst h1
        exact Or.inr ⟨hfront d (by simp), front, c, back, h2,
          fun x hx => hfront x (List.mem_cons_of_mem _ hx), hc, hl, hv⟩
    rcases split h with ⟨hd, rfl, rfl⟩ | ⟨hd, h⟩ <;>
      rcases split h' with ⟨hd', rfl, rfl⟩ | ⟨hd', h'⟩
    · exact ⟨rfl, rfl⟩
    · exact absurd hd' hd
    · exact absurd hd hd'
    · exact ih h h'

/-- The result of checks with `rest` behind them: all hold and `rest` is true of it, or the first
that fails is named. -/
def Outcome {α : Type} (cs : List Check) (rest : Except Rejection α → Prop)
    (x : Except Rejection α) : Prop :=
  ((∀ c ∈ cs, c.Holds) ∧ rest x) ∨
    ∃ label value expected, FailsFirst cs label value ∧
      x = .error (.invalidFormat label value expected)

theorem Outcome.nil {α : Type} {rest : Except Rejection α → Prop} {x : Except Rejection α}
    (h : rest x) : Outcome [] rest x :=
  Or.inl ⟨fun _ hx => absurd hx List.not_mem_nil, h⟩

theorem Outcome.bind {α β : Type} {c : Check} {cs : List Check}
    {rest : Except Rejection β → Prop} {x : Except Rejection α} {f : α → Except Rejection β}
    (hx : c.Answers x) (hf : ∀ a, x = .ok a → Outcome cs rest (f a)) :
    Outcome (c :: cs) rest (x >>= f) := by
  by_cases hc : c.Holds
  · obtain ⟨a, rfl⟩ := hx.accepts hc
    rcases hf a rfl with ⟨hall, hrest⟩ | ⟨label, value, expected, hfail, hfa⟩
    · refine Or.inl ⟨fun d hd => ?_, hrest⟩
      rcases List.mem_cons.mp hd with rfl | hd
      · exact hc
      · exact hall d hd
    · exact Or.inr ⟨label, value, expected, hfail.tail hc, hfa⟩
  · obtain ⟨expected, rfl⟩ := hx.rejects hc
    exact Or.inr ⟨c.label, c.value, expected, FailsFirst.head hc, rfl⟩

/-! ## Declarations -/

namespace Declaration

def checks (d : Declaration) : List Check :=
  [⟨"first-iccid", d.iccid.first, IsIccid d.iccid.first⟩,
    ⟨"last-iccid", d.iccid.last, IsIccid d.iccid.last⟩,
    ⟨"first-imsi", d.imsi.first, IsImsi d.imsi.first⟩,
    ⟨"last-imsi", d.imsi.last, IsImsi d.imsi.last⟩,
    ⟨"first-msisdn", d.msisdn.first, IsMsisdn d.msisdn.first⟩,
    ⟨"last-msisdn", d.msisdn.last, IsMsisdn d.msisdn.last⟩,
    ⟨"profile-type", d.profileType, IsProfileType d.profileType⟩,
    ⟨"initial-hss-state", d.initialHssState, IsHssState d.initialHssState⟩,
    ⟨"batch-quantity", d.quantity, ∃ q, IsQuantity d.quantity q⟩,
    ⟨"upload-url", d.uploadUrl, IsWebUrl d.uploadUrl⟩]

def ranges (d : Declaration) : Sequences where
  iccid := ⟨iccidNumber d.iccid.first, iccidNumber d.iccid.last, 18⟩
  imsi := ⟨value d.imsi.first.toList, value d.imsi.last.toList, 15⟩
  msisdn := ⟨value d.msisdn.first.toList, value d.msisdn.last.toList, d.msisdn.first.toList.length⟩

def accepted (d : Declaration) (q : Nat) : Descriptor where
  profileType := d.profileType
  url := d.uploadUrl
  quantity := q
  firstIccid := d.iccid.first
  iccidIncrement := d.ranges.iccid.increment
  firstImsi := d.imsi.first
  imsiIncrement := d.ranges.imsi.increment
  firstMsisdn := d.msisdn.first
  msisdnIncrement := d.ranges.msisdn.increment
  sequences := d.ranges

/-- Each family spans `q` numbers. -/
def Spans (d : Declaration) (q : Nat) : Prop :=
  span (iccidNumber d.iccid.first) (iccidNumber d.iccid.last) = q ∧
    span (value d.imsi.first.toList) (value d.imsi.last.toList) = q ∧
    span (value d.msisdn.first.toList) (value d.msisdn.last.toList) = q

/-- What is left when all checks hold: the counting. -/
def counted (d : Declaration) (q : Nat) : Except Rejection Descriptor := do
  let s ← Sequences.reconcile d.iccid d.imsi d.msisdn q
  return {
    profileType := d.profileType
    url := d.uploadUrl
    quantity := q
    firstIccid := d.iccid.first
    iccidIncrement := s.iccid.increment
    firstImsi := d.imsi.first
    imsiIncrement := s.imsi.increment
    firstMsisdn := d.msisdn.first
    msisdnIncrement := s.msisdn.increment
    sequences := s }

theorem descriptor_outcome (d : Declaration) :
    Outcome d.checks (fun x => ∃ q, IsQuantity d.quantity q ∧ x = d.counted q) d.descriptor := by
  refine Outcome.bind (Field.answers_iccid _ _) fun _ _ => ?_
  refine Outcome.bind (Field.answers_iccid _ _) fun _ _ => ?_
  refine Outcome.bind (Field.answers_imsi _ _) fun _ _ => ?_
  refine Outcome.bind (Field.answers_imsi _ _) fun _ _ => ?_
  refine Outcome.bind (Field.answers_msisdn _ _) fun _ _ => ?_
  refine Outcome.bind (Field.answers_msisdn _ _) fun _ _ => ?_
  refine Outcome.bind (Field.answers_profileType _ _) fun _ _ => ?_
  refine Outcome.bind (Field.answers_hssState _ _) fun _ _ => ?_
  refine Outcome.bind (Field.answers_quantity _ _) fun q hq => ?_
  refine Outcome.bind (Field.answers_url _ _) fun _ _ => ?_
  exact Outcome.nil ⟨q, (Field.quantity_eq_ok_iff _).mp hq, rfl⟩

/-! ### Counting -/

theorem agree_iff_spans (d : Declaration) (q : Nat) : d.ranges.Agree q ↔ d.Spans q := by
  simp only [Sequences.Agree, Range.length_eq_span, ranges, Spans]
  constructor
  · rintro ⟨h1, h2, h3⟩
    exact ⟨h1.trans (h2.trans h3), h2.trans h3, h3⟩
  · rintro ⟨h1, h2, h3⟩
    exact ⟨h1.trans h2.symm, h2.trans h3.symm, h3⟩

theorem forms_of_checks {d : Declaration} (h : ∀ c ∈ d.checks, c.Holds) :
    (IsIccid d.iccid.first ∧ IsIccid d.iccid.last) ∧ (IsImsi d.imsi.first ∧ IsImsi d.imsi.last) ∧
      (IsMsisdn d.msisdn.first ∧ IsMsisdn d.msisdn.last) := by
  simp only [checks, List.forall_mem_cons] at h
  obtain ⟨h1, h2, h3, h4, h5, h6, -⟩ := h
  exact ⟨⟨h1, h2⟩, ⟨h3, h4⟩, h5, h6⟩

/-- Behind its checks, reading a family cannot fail. -/
theorem reconcile_of_checks {d : Declaration} (h : ∀ c ∈ d.checks, c.Holds) (q : Nat) :
    Sequences.reconcile d.iccid d.imsi d.msisdn q =
      if d.ranges.Agree q then .ok d.ranges
      else .error (.lengthMismatch d.ranges.iccid.length d.ranges.imsi.length
        d.ranges.msisdn.length q) := by
  obtain ⟨⟨hi, hi'⟩, ⟨hm, hm'⟩, hn, hn'⟩ := forms_of_checks h
  have him := Range.parse_of_allDigits "imsi" hm.1 hm'.1 (by rw [hm.2]; decide)
    (by rw [hm.2]; decide) (by rw [hm'.2]; decide) (by rw [hm'.2]; decide)
  have hin := Range.parse_of_allDigits "msisdn" hn.1 hn'.1 hn.2.1
    (Nat.le_trans hn.2.2 (by decide)) hn'.2.1 (Nat.le_trans hn'.2.2 (by decide))
  rw [hm.2] at him
  rw [Sequences.reconcile, Range.parseIccid_of_isIccid hi hi', him, hin]
  rfl

theorem counted_of_checks {d : Declaration} (h : ∀ c ∈ d.checks, c.Holds) (q : Nat) :
    d.counted q =
      if d.ranges.Agree q then .ok (d.accepted q)
      else .error (.lengthMismatch d.ranges.iccid.length d.ranges.imsi.length
        d.ranges.msisdn.length q) := by
  rw [counted, reconcile_of_checks h]
  split
  · rfl
  · rfl

/-! ### Acceptance -/

theorem descriptor_of_checks {d : Declaration} {q : Nat} (h : ∀ c ∈ d.checks, c.Holds)
    (hq : IsQuantity d.quantity q) : d.descriptor = d.counted q := by
  rcases d.descriptor_outcome with ⟨-, q', hq', hx⟩ | ⟨label, value, expected, hfail, -⟩
  · rw [hx, Field.isQuantity_unique hq hq']
  · exact absurd h hfail.not_all

theorem descriptor_eq_ok_iff {d : Declaration} {b : Descriptor} :
    d.descriptor = .ok b ↔
      (∀ c ∈ d.checks, c.Holds) ∧ ∃ q, IsQuantity d.quantity q ∧ d.Spans q ∧ b = d.accepted q := by
  constructor
  · intro hb
    rcases d.descriptor_outcome with ⟨h, q, hq, hx⟩ | ⟨label, value, expected, -, hx⟩
    · rw [hb, counted_of_checks h] at hx
      split at hx
      · rename_i ha
        injection hx with hx
        exact ⟨h, q, hq, (d.agree_iff_spans q).mp ha, hx⟩
      · cases hx
    · rw [hb] at hx
      cases hx
  · rintro ⟨h, q, hq, hspan, rfl⟩
    rw [descriptor_of_checks h hq, counted_of_checks h, if_pos ((d.agree_iff_spans q).mpr hspan)]

theorem descriptor_eq_invalidFormat_iff {d : Declaration} {label value : String} :
    (∃ expected, d.descriptor = .error (.invalidFormat label value expected)) ↔
      FailsFirst d.checks label value := by
  constructor
  · rintro ⟨e, hb⟩
    rcases d.descriptor_outcome with ⟨h, q, -, hx⟩ | ⟨label', value', expected, hfail, hx⟩
    · rw [hb, counted_of_checks h] at hx
      split at hx <;> cases hx
    · rw [hb] at hx
      injection hx with hx
      injection hx with hl hv
      rw [hl, hv]
      exact hfail
  · intro hfail
    rcases d.descriptor_outcome with ⟨h, -⟩ | ⟨label', value', expected, hfail', hx⟩
    · exact absurd h hfail.not_all
    · obtain ⟨rfl, rfl⟩ := hfail.unique hfail'
      exact ⟨expected, hx⟩

theorem descriptor_eq_lengthMismatch_iff {d : Declaration} {i m n q : Nat} :
    d.descriptor = .error (.lengthMismatch i m n q) ↔
      (∀ c ∈ d.checks, c.Holds) ∧ IsQuantity d.quantity q ∧ ¬ d.Spans q ∧
        i = span (iccidNumber d.iccid.first) (iccidNumber d.iccid.last) ∧
        m = span (value d.imsi.first.toList) (value d.imsi.last.toList) ∧
        n = span (value d.msisdn.first.toList) (value d.msisdn.last.toList) := by
  have hlen := fun r : Range => r.length_eq_span
  constructor
  · intro hb
    rcases d.descriptor_outcome with ⟨h, q', hq, hx⟩ | ⟨label, value, expected, -, hx⟩
    · rw [hb, counted_of_checks h] at hx
      split at hx
      · cases hx
      · rename_i ha
        injection hx with hx
        injection hx with hi hm hn hqq
        subst hqq
        rw [hlen] at hi hm hn
        exact ⟨h, hq, fun hs => ha ((d.agree_iff_spans q).mpr hs), hi, hm, hn⟩
    · rw [hb] at hx
      cases hx
  · rintro ⟨h, hq, hspan, rfl, rfl, rfl⟩
    rw [descriptor_of_checks h hq, counted_of_checks h,
      if_neg (fun ha => hspan ((d.agree_iff_spans q).mp ha)), hlen, hlen, hlen]
    rfl

/-- A declaration is accepted exactly if every field has its form and every family spans the
declared quantity; else the first field without its form is named with its value, or, when all have
theirs, the three lengths and the quantity. -/
theorem descriptor_decided (d : Declaration) :
    ((∃ b, d.descriptor = .ok b) ↔
      (∀ c ∈ d.checks, c.Holds) ∧ ∃ q, IsQuantity d.quantity q ∧ d.Spans q) ∧
    (∀ label value, (∃ expected, d.descriptor = .error (.invalidFormat label value expected)) ↔
      FailsFirst d.checks label value) ∧
    (∀ i m n q, d.descriptor = .error (.lengthMismatch i m n q) ↔
      (∀ c ∈ d.checks, c.Holds) ∧ IsQuantity d.quantity q ∧ ¬ d.Spans q ∧
        i = span (iccidNumber d.iccid.first) (iccidNumber d.iccid.last) ∧
        m = span (value d.imsi.first.toList) (value d.imsi.last.toList) ∧
        n = span (value d.msisdn.first.toList) (value d.msisdn.last.toList)) := by
  refine ⟨?_, fun _ _ => descriptor_eq_invalidFormat_iff,
    fun _ _ _ _ => descriptor_eq_lengthMismatch_iff⟩
  constructor
  · rintro ⟨b, hb⟩
    obtain ⟨h, q, hq, hspan, -⟩ := descriptor_eq_ok_iff.mp hb
    exact ⟨h, q, hq, hspan⟩
  · rintro ⟨h, q, hq, hspan⟩
    exact ⟨d.accepted q, descriptor_eq_ok_iff.mpr ⟨h, q, hq, hspan, rfl⟩⟩

/-! ## An accepted declaration -/

/-- Ten subscribers, counted down in their MSISDNs; only the first ICCID has its check digit. -/
def sample : Declaration where
  iccid := ⟨"8901000000000000001", "890100000000000009"⟩
  imsi := ⟨"242017100000228", "242017100000237"⟩
  msisdn := ⟨"0000000009", "0"⟩
  profileType := "OYA_M1_BF76"
  quantity := " +10"
  uploadHostname := "[::1]"

theorem eq_ok_of_toOption {ε α : Type} {x : Except ε α} {a : α} (h : x.toOption = some a) :
    x = .ok a := by
  cases x with
  | error e => cases h
  | ok b =>
    injection h with h
    rw [h]

theorem sample_accepted : sample.descriptor = .ok (sample.accepted 10) :=
  eq_ok_of_toOption (by decide +kernel)

end Declaration

end Provisioning.Batch
