import Provisioning.Proofs.Batch.Subscriber
/-!
# A batch cut in two

A batch can be declared in two parts, cut anywhere: what the two parts list is what the whole lists.

* `Range.IsPart` : a range that holds some identifiers of another, written the same way; its
  identifiers are those (`IsPart.length`, `IsPart.number`);
* `Range.isPart_start`, `Range.isPart_rest` : the two parts of a range, the second filled up to the
  length of its own first identifier;
* `Sequences.IsPart` : the same for three ranges;
* `Descriptor.Lists` : the subscribers of a batch, as its cursor gives them as well;
* `Declaration.endingAt`, `Declaration.startingAt` : the declarations of the parts;
* `Descriptor.lists_cut` : both are accepted, and list the batch between them.
-/

namespace Provisioning.Batch
open Decimal

/-! ## Parts of a range -/

/-- A range holds the `n` identifiers of another from the place `a` on, written the same way. -/
structure Range.IsPart (part whole : Range) (a n : Nat) : Prop where
  first : part.first = whole.number a
  last : part.last = whole.number (a + n - 1)
  written : ∀ i < n, padded part.width (whole.number (a + i)) =
    padded whole.width (whole.number (a + i))

namespace Range

variable {part whole r : Range} {a n i k : Nat}

theorem IsPart.length (h : part.IsPart whole a n) (hn : 1 ≤ n) (hle : a + n ≤ whole.length) :
    part.length = n := by
  have hfirst := h.first
  have hlast := h.last
  unfold Range.length at hle ⊢
  unfold number increment at hfirst hlast
  split_ifs at hfirst hlast
  · change part.first = whole.first + a at hfirst
    change part.last = whole.first + (a + n - 1) at hlast
    omega
  · change part.first = whole.first - a at hfirst
    change part.last = whole.first - (a + n - 1) at hlast
    omega

/-- A part of one identifier counts up, also in a range that counts down. -/
theorem IsPart.number (h : part.IsPart whole a n) (hle : a + n ≤ whole.length) (hi : i < n) :
    part.number i = whole.number (a + i) := by
  have hfirst := h.first
  have hlast := h.last
  unfold Range.length at hle
  unfold Range.number increment at hfirst hlast ⊢
  split_ifs at hfirst hlast ⊢
  all_goals dsimp only at hfirst hlast ⊢
  all_goals omega

theorem isPart_start (r : Range) (k : Nat) : IsPart { r with last := r.number (k - 1) } r 0 k where
  first := r.number_zero.symm
  last := congrArg r.number (by omega)
  written _ _ := rfl

/-- A range never gets to more digits than its first identifier has, unless it counts up. -/
theorem length_render_number_le (hw : 0 < r.width) (hfirst : r.first < 10 ^ r.width) (k i : Nat) :
    (render (r.number k)).length ≤ max r.width (render (r.number (k + i))).length := by
  unfold number
  cases r.increment with
  | up =>
    have hmono : (render (r.first + k)).length ≤ (render (r.first + (k + i))).length :=
      length_render_mono (by omega)
    exact Nat.le_trans hmono (Nat.le_max_right _ _)
  | down =>
    have hlt : r.first - k < 10 ^ r.width := Nat.lt_of_le_of_lt (Nat.sub_le _ _) hfirst
    exact Nat.le_trans (length_render_le hw hlt) (Nat.le_max_left _ _)

theorem isPart_rest {width : Nat} (hk : k < r.length)
    (hwritten : ∀ i, padded width (r.number (k + i)) = padded r.width (r.number (k + i))) :
    IsPart ⟨r.number k, r.last, width⟩ r k (r.length - k) where
  first := rfl
  last := by
    have hplace : k + (r.length - k) - 1 = r.length - 1 := by omega
    rw [hplace, number_last]
  written i _ := hwritten i

end Range

/-! ## Parts of three ranges -/

namespace Sequences

structure IsPart (part whole : Sequences) (a n : Nat) : Prop where
  iccid : part.iccid.IsPart whole.iccid a n
  imsi : part.imsi.IsPart whole.imsi a n
  msisdn : part.msisdn.IsPart whole.msisdn a n

variable {part whole : Sequences} {q a n i : Nat}

theorem Agree.length_eq (ha : whole.Agree q) :
    whole.iccid.length = q ∧ whole.imsi.length = q ∧ whole.msisdn.length = q := by
  obtain ⟨h1, h2, h3⟩ := ha
  omega

theorem IsPart.agree (h : part.IsPart whole a n) (ha : whole.Agree q) (hn : 1 ≤ n)
    (hle : a + n ≤ q) : part.Agree n := by
  obtain ⟨h1, h2, h3⟩ := ha.length_eq
  have hi := h.iccid.length hn (by omega)
  have hm := h.imsi.length hn (by omega)
  have hs := h.msisdn.length hn (by omega)
  exact ⟨hi.trans hm.symm, hm.trans hs.symm, hs⟩

/-- The subscribers of a part are subscribers of the whole, string for string. -/
theorem IsPart.subscriber (h : part.IsPart whole a n) (ha : whole.Agree q) (hle : a + n ≤ q)
    (hi : i < n) : part.subscriber i = whole.subscriber (a + i) := by
  obtain ⟨h1, h2, h3⟩ := ha.length_eq
  unfold Sequences.subscriber
  rw [h.iccid.number (by omega) hi, h.iccid.written i hi, h.imsi.number (by omega) hi,
    h.imsi.written i hi, h.msisdn.number (by omega) hi, h.msisdn.written i hi]

end Sequences

/-! ## The subscribers that a batch lists -/

/-- The batch has these subscribers, and its cursor gives them one by one and then none. -/
structure Descriptor.Lists (b : Descriptor) (es : List Entry) : Prop where
  entries : b.entries = es
  answers : ∀ n, b.cursor.answer n = es[n]?

theorem Declaration.lists_accepted {d : Declaration} {q : Nat} (ha : d.ranges.Agree q) :
    (d.accepted q).Lists ((List.range q).map d.ranges.subscriber) where
  entries := Sequences.filterMap_nth? ha
  answers n := by
    rw [answer_accepted ha, ← Sequences.nth?_eq_ite ha, Sequences.nth?_eq_getElem? ha]

theorem Declaration.lists_entries {d : Declaration} {b : Descriptor} (h : d.descriptor = .ok b) :
    b.Lists b.entries ∧ b.entries.length = b.quantity := by
  obtain ⟨-, q, -, hspan, rfl⟩ := descriptor_eq_ok_iff.mp h
  have hlists := lists_accepted ((d.agree_iff_spans q).mpr hspan)
  rw [hlists.entries, List.length_map, List.length_range]
  exact ⟨hlists, rfl⟩

/-! ## Declarations of parts -/

namespace Declaration

/-- The declaration of `n` subscribers that begins as `d` does and ends with the subscriber `e`. -/
def endingAt (d : Declaration) (e : Entry) (n : Nat) : Declaration :=
  { d with
    iccid := ⟨d.iccid.first, e.iccid⟩
    imsi := ⟨d.imsi.first, e.imsi⟩
    msisdn := ⟨d.msisdn.first, e.msisdn⟩
    quantity := n.repr }

/-- The declaration of `n` subscribers that begins with the subscriber `e` and ends as `d` does. -/
def startingAt (d : Declaration) (e : Entry) (n : Nat) : Declaration :=
  { d with
    iccid := ⟨e.iccid, d.iccid.last⟩
    imsi := ⟨e.imsi, d.imsi.last⟩
    msisdn := ⟨e.msisdn, d.msisdn.last⟩
    quantity := n.repr }

variable {d d' : Declaration} {e : Entry} {q a n i k : Nat}

/-! ### Checks -/

theorem isIccid_of_isSubscriber (h : e.IsSubscriber) : IsIccid e.iccid :=
  (Field.iccid_accepts_iff "" e.iccid).mp ⟨_, h.iccid ""⟩

theorem isQuantity_repr (hn : 1 ≤ n) (hlt : n < UInt64.size) : IsQuantity n.repr n := by
  refine ⟨[], render n, [], ?_, fun _ hc => absurd hc List.not_mem_nil,
    fun _ hc => absurd hc List.not_mem_nil, ?_, hn, hlt⟩
  · rw [toList_repr, List.append_nil, List.nil_append]
  · exact ⟨[], render n, rfl, Or.inl rfl, render_ne_nil n, allDigits_render n, value_render n⟩

theorem checks_endingAt (h : ∀ c ∈ d.checks, c.Holds) (he : e.IsSubscriber)
    (hn : IsQuantity n.repr n) : ∀ c ∈ (d.endingAt e n).checks, c.Holds := by
  simp only [checks, List.forall_mem_cons] at h ⊢
  obtain ⟨hi, -, hm, -, hs, -, htype, hstate, -, hurl, hnil⟩ := h
  exact ⟨hi, isIccid_of_isSubscriber he, hm, he.imsi_digits, hs, he.msisdn_digits, htype, hstate,
    ⟨n, hn⟩, hurl, hnil⟩

theorem checks_startingAt (h : ∀ c ∈ d.checks, c.Holds) (he : e.IsSubscriber)
    (hn : IsQuantity n.repr n) : ∀ c ∈ (d.startingAt e n).checks, c.Holds := by
  simp only [checks, List.forall_mem_cons] at h ⊢
  obtain ⟨-, hi, -, hm, -, hs, htype, hstate, -, hurl, hnil⟩ := h
  exact ⟨isIccid_of_isSubscriber he, hi, he.imsi_digits, hm, he.msisdn_digits, hs, htype, hstate,
    ⟨n, hn⟩, hurl, hnil⟩

/-! ### Ranges -/

theorem numbers_subscriber (h : ∀ c ∈ d.checks, c.Holds) (ha : d.ranges.Agree q) (hi : i < q) :
    iccidNumber (d.ranges.subscriber i).iccid = d.ranges.iccid.number i ∧
      value (d.ranges.subscriber i).imsi.toList = d.ranges.imsi.number i ∧
      value (d.ranges.subscriber i).msisdn.toList = d.ranges.msisdn.number i := by
  have hlen : (padded d.ranges.iccid.width (d.ranges.iccid.number i)).length = 18 :=
    length_payload_subscriber h ha hi
  refine ⟨?_, ?_, ?_⟩
  · rw [iccidNumber, Sequences.subscriber, String.toList_ofList, Luhn.completed,
      List.take_left' hlen, value_padded]
  · rw [Sequences.subscriber, String.toList_ofList, value_padded]
  · rw [Sequences.subscriber, String.toList_ofList, value_padded]

theorem isPart_endingAt (h : ∀ c ∈ d.checks, c.Holds) (ha : d.ranges.Agree q) (hpos : 1 ≤ k)
    (hk : k ≤ q) : (d.endingAt (d.ranges.subscriber (k - 1)) k).ranges.IsPart d.ranges 0 k := by
  obtain ⟨hi, hm, hs⟩ := numbers_subscriber h ha (show k - 1 < q by omega)
  have hranges : (d.endingAt (d.ranges.subscriber (k - 1)) k).ranges =
      ⟨{ d.ranges.iccid with last := d.ranges.iccid.number (k - 1) },
        { d.ranges.imsi with last := d.ranges.imsi.number (k - 1) },
        { d.ranges.msisdn with last := d.ranges.msisdn.number (k - 1) }⟩ := by
    rw [← hi, ← hm, ← hs]
    rfl
  rw [hranges]
  exact ⟨Range.isPart_start _ k, Range.isPart_start _ k, Range.isPart_start _ k⟩

/-- The second part fills its MSISDNs up to the length of its own first one. That one may be longer
than the first of all, but then the MSISDNs count up, and those behind it are as long. -/
theorem isPart_startingAt (h : ∀ c ∈ d.checks, c.Holds) (ha : d.ranges.Agree q) (hk : k < q) :
    (d.startingAt (d.ranges.subscriber k) (q - k)).ranges.IsPart d.ranges k (q - k) := by
  obtain ⟨hi, hm, hs⟩ := numbers_subscriber h ha hk
  obtain ⟨h1, h2, h3⟩ := ha.length_eq
  obtain ⟨-, -, hfirst, -⟩ := forms_of_checks h
  have hranges : (d.startingAt (d.ranges.subscriber k) (q - k)).ranges =
      ⟨⟨d.ranges.iccid.number k, d.ranges.iccid.last, d.ranges.iccid.width⟩,
        ⟨d.ranges.imsi.number k, d.ranges.imsi.last, d.ranges.imsi.width⟩,
        ⟨d.ranges.msisdn.number k, d.ranges.msisdn.last,
          (padded d.ranges.msisdn.width (d.ranges.msisdn.number k)).length⟩⟩ := by
    have hwidth : (d.ranges.subscriber k).msisdn.toList.length =
        (padded d.ranges.msisdn.width (d.ranges.msisdn.number k)).length := by
      rw [Sequences.subscriber, String.toList_ofList]
    rw [← hwidth, ← hi, ← hm, ← hs]
    rfl
  rw [hranges]
  constructor
  · rw [← h1] at hk ⊢
    exact Range.isPart_rest hk fun _ => rfl
  · rw [← h2] at hk ⊢
    exact Range.isPart_rest hk fun _ => rfl
  · have hpos : 0 < d.ranges.msisdn.width := hfirst.2.1
    have hlt : d.ranges.msisdn.first < 10 ^ d.ranges.msisdn.width := value_lt hfirst.1
    rw [← h3] at hk ⊢
    exact Range.isPart_rest hk fun i =>
      padded_length_padded (Range.length_render_number_le hpos hlt k i)

/-- The declaration of a part is accepted, and lists the subscribers of its places. -/
theorem lists_of_isPart (h : ∀ c ∈ d'.checks, c.Holds) (hn : IsQuantity d'.quantity n)
    (hpart : d'.ranges.IsPart d.ranges a n) (ha : d.ranges.Agree q) (hle : a + n ≤ q) :
    d'.descriptor = .ok (d'.accepted n) ∧
      (d'.accepted n).Lists ((List.range n).map fun i => d.ranges.subscriber (a + i)) := by
  obtain ⟨-, -, -, -, -, -, -, hpos, -⟩ := id hn
  have ha' := hpart.agree ha hpos hle
  refine ⟨descriptor_eq_ok_iff.mpr ⟨h, n, hn, (d'.agree_iff_spans n).mp ha', rfl⟩, ?_⟩
  have hsubscribers : (List.range n).map d'.ranges.subscriber =
      (List.range n).map fun i => d.ranges.subscriber (a + i) :=
    List.map_congr_left fun i hi => hpart.subscriber ha hle (List.mem_range.mp hi)
  rw [← hsubscribers]
  exact lists_accepted ha'

end Declaration

/-! ## The cut -/

/-- A batch cut behind any `k` of its subscribers: with the last of these in place of the declared
last one, and with the next in place of the declared first one, two batches are declared. Both are
accepted, and what they list, one behind the other, is what the whole lists. -/
theorem Descriptor.lists_cut {d : Declaration} {b : Descriptor} {k : Nat}
    (h : d.descriptor = .ok b) (hpos : 1 ≤ k) (hk : k < b.quantity) :
    ∃ before after front back start rest,
      b.cursor.answer (k - 1) = some before ∧ b.cursor.answer k = some after ∧
      (d.endingAt before k).descriptor = .ok start ∧ start.Lists front ∧ front.length = k ∧
      (d.startingAt after (b.quantity - k)).descriptor = .ok rest ∧ rest.Lists back ∧
      back.length = b.quantity - k ∧ b.Lists (front ++ back) := by
  obtain ⟨hall, q, hq, hspan, rfl⟩ := Declaration.descriptor_eq_ok_iff.mp h
  rw [show (d.accepted q).quantity = q from rfl] at hk ⊢
  obtain ⟨-, -, -, -, -, -, -, -, hlimit⟩ := hq
  have ha := (d.agree_iff_spans q).mpr hspan
  have hbefore : k - 1 < q := by omega
  have hstart : IsQuantity k.repr k := Declaration.isQuantity_repr hpos (by omega)
  have hrest : IsQuantity (q - k).repr (q - k) :=
    Declaration.isQuantity_repr (by omega) (by omega)
  obtain ⟨hstartOk, hstartLists⟩ := Declaration.lists_of_isPart
    (Declaration.checks_endingAt hall (Declaration.isSubscriber_subscriber hall ha hbefore) hstart)
    hstart (Declaration.isPart_endingAt hall ha hpos (Nat.le_of_lt hk)) ha (by omega)
  obtain ⟨hrestOk, hrestLists⟩ := Declaration.lists_of_isPart
    (Declaration.checks_startingAt hall (Declaration.isSubscriber_subscriber hall ha hk) hrest)
    hrest (Declaration.isPart_startingAt hall ha hk) ha (by omega)
  refine ⟨d.ranges.subscriber (k - 1), d.ranges.subscriber k, _, _, _, _,
    (Declaration.answer_eq_some_iff ha).mpr ⟨hbefore, rfl⟩,
    (Declaration.answer_eq_some_iff ha).mpr ⟨hk, rfl⟩, hstartOk, hstartLists, by simp, hrestOk,
    hrestLists, by simp, ?_⟩
  have hplaces : List.range q = List.range k ++ (List.range (q - k)).map (k + ·) := by
    rw [← List.range_add, Nat.add_sub_cancel' (Nat.le_of_lt hk)]
  have hwhole := Declaration.lists_accepted ha
  rw [hplaces, List.map_append, List.map_map] at hwhole
  simp only [Nat.zero_add]
  exact hwhole

/-- Ten subscribers, counted down in their IMSIs; the MSISDNs get a second digit behind the first
two. -/
def Declaration.growing : Declaration :=
  { Declaration.sample with
    imsi := ⟨"242017100000237", "242017100000228"⟩
    msisdn := ⟨"8", "17"⟩ }

theorem Declaration.growing_accepted :
    Declaration.growing.descriptor = .ok (Declaration.growing.accepted 10) :=
  eq_ok_of_toOption (by decide +kernel)

/-- Cut where the MSISDNs get longer. -/
theorem Descriptor.growing_cut :
    Declaration.growing.descriptor = .ok (Declaration.growing.accepted 10) ∧
      1 ≤ 2 ∧ 2 < (Declaration.growing.accepted 10).quantity ∧
      ∃ front back start rest,
        (Declaration.growing.endingAt ⟨"8901000000000000019", "242017100000236", "9"⟩ 2).descriptor =
          .ok start ∧ start.Lists front ∧
        (Declaration.growing.startingAt ⟨"8901000000000000027", "242017100000235", "10"⟩
          8).descriptor = .ok rest ∧ rest.Lists back ∧
        (Declaration.growing.accepted 10).Lists (front ++ back) := by
  obtain ⟨before, after, front, back, start, rest, hbefore, hafter, hstart, hfront, -, hrest,
    hback, -, hwhole⟩ :=
      Descriptor.lists_cut Declaration.growing_accepted (show 1 ≤ 2 by decide) (by decide)
  have h1 : (Declaration.growing.accepted 10).cursor.answer 1 =
      some ⟨"8901000000000000019", "242017100000236", "9"⟩ := by decide +kernel
  have h2 : (Declaration.growing.accepted 10).cursor.answer 2 =
      some ⟨"8901000000000000027", "242017100000235", "10"⟩ := by decide +kernel
  obtain rfl := Option.some.inj (hbefore.symm.trans h1)
  obtain rfl := Option.some.inj (hafter.symm.trans h2)
  exact ⟨Declaration.growing_accepted, by decide, by decide, front, back, start, rest, hstart,
    hfront, hrest, hback, hwhole⟩

end Provisioning.Batch
