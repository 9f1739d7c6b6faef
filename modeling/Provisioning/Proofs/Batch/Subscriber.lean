import Provisioning.Proofs.Batch.Regeneration
/-!
# The subscribers of an accepted batch

* `Declaration.answer_accepted` : what the cursor of an accepted batch answers;
* `Entry.IsSubscriber` : a subscriber that passes the checks of its fields;
* `Entry.Differs` : subscribers that share no identifier;
* `Descriptor.subscribers_valid` : the subscribers of a batch pass the checks, and no two of them
  share an identifier;
* `Entry.Has` : a subscriber with given identifiers;
* `Descriptor.ends_regenerate` : the first and the last subscriber of a batch are those declared,
  but that the last MSISDN is filled up to the length of the first.
-/

namespace Provisioning.Batch
open Decimal

/-! ## What a cursor answers -/

theorem Declaration.answer_accepted {d : Declaration} {q : Nat} (ha : d.ranges.Agree q) (n : Nat) :
    (d.accepted q).cursor.answer n = if n < q then some (d.ranges.subscriber n) else none :=
  Cursor.answer_eq_ite ha n

theorem Declaration.answer_eq_some_iff {d : Declaration} {q n : Nat} {e : Entry}
    (ha : d.ranges.Agree q) :
    (d.accepted q).cursor.answer n = some e ↔ n < q ∧ d.ranges.subscriber n = e := by
  rw [answer_accepted ha]
  split
  · rename_i hn
    simp [hn]
  · rename_i hn
    simp [hn]

/-! ## Checks of a subscriber -/

/-- A subscriber that the checks of the fields pass, under whatever label, its ICCID with a check
digit. -/
structure Entry.IsSubscriber (e : Entry) : Prop where
  iccid : ∀ label, Field.iccid label e.iccid = .ok e.iccid
  iccid_digits : AllDigits e.iccid.toList ∧ e.iccid.toList.length = 19
  imsi : ∀ label, Field.imsi label e.imsi = .ok e.imsi
  imsi_digits : AllDigits e.imsi.toList ∧ e.imsi.toList.length = 15
  msisdn : ∀ label, Field.msisdn label e.msisdn = .ok e.msisdn
  msisdn_digits : AllDigits e.msisdn.toList ∧ 1 ≤ e.msisdn.toList.length ∧
    e.msisdn.toList.length ≤ 15

/-- Subscribers that share no identifier, nor an ICCID without its check digit. -/
structure Entry.Differs (e e' : Entry) : Prop where
  iccid : e.iccid ≠ e'.iccid
  payload : Luhn.payload e.iccid ≠ Luhn.payload e'.iccid
  imsi : e.imsi ≠ e'.imsi
  msisdn : e.msisdn ≠ e'.msisdn

theorem isImsi_padded {n : Nat} (h : n < 10 ^ 15) : IsImsi (String.ofList (padded 15 n)) := by
  unfold IsImsi
  rw [String.toList_ofList]
  exact ⟨allDigits_padded 15 n, length_padded (by decide) h⟩

theorem isMsisdn_padded {w n : Nat} (hw : w ≤ 15) (h : n < 10 ^ 15) :
    IsMsisdn (String.ofList (padded w n)) := by
  have hrender : (render n).length ≤ 15 := length_render_le (by decide) h
  have hpos : 0 < (padded w n).length := List.length_pos_iff.mpr (padded_ne_nil w n)
  unfold IsMsisdn
  rw [String.toList_ofList]
  refine ⟨allDigits_padded w n, hpos, ?_⟩
  rw [length_padded_eq_max]
  omega

namespace Sequences

theorem lt_lengths {s : Sequences} {q i : Nat} (ha : s.Agree q) (hi : i < q) :
    i < s.iccid.length ∧ i < s.imsi.length ∧ i < s.msisdn.length := by
  obtain ⟨h1, h2, h3⟩ := ha
  omega

/-- At different places of the ranges, no written number comes twice. -/
theorem subscriber_differs {s : Sequences} {q i j : Nat} (ha : s.Agree q)
    (hlen : ∀ n < q, (padded s.iccid.width (s.iccid.number n)).length = Luhn.payloadLength)
    (hi : i < q) (hj : j < q) (hne : i ≠ j) : (s.subscriber i).Differs (s.subscriber j) := by
  obtain ⟨hi1, hi2, hi3⟩ := lt_lengths ha hi
  obtain ⟨hj1, hj2, hj3⟩ := lt_lengths ha hj
  have hpadded : ∀ r : Range, i < r.length → j < r.length →
      String.ofList (padded r.width (r.number i)) ≠
        String.ofList (padded r.width (r.number j)) := by
    intro r hir hjr heq
    exact hne (Range.number_inj hir hjr (padded_injective (String.ofList_injective heq)))
  have hpayload : Luhn.payload (s.subscriber i).iccid ≠ Luhn.payload (s.subscriber j).iccid := by
    have hpay : ∀ n < q, Luhn.payload (s.subscriber n).iccid =
        String.ofList (padded s.iccid.width (s.iccid.number n)) :=
      fun n hn => Luhn.payload_completed (allDigits_padded _ _) (hlen n hn)
    rw [hpay i hi, hpay j hj]
    exact hpadded s.iccid hi1 hj1
  exact {
    iccid := fun heq => hpayload (congrArg Luhn.payload heq)
    payload := hpayload
    imsi := hpadded s.imsi hi2 hj2
    msisdn := hpadded s.msisdn hi3 hj3 }

end Sequences

namespace Declaration

variable {d : Declaration} {q i : Nat}

theorem numbers_lt (h : ∀ c ∈ d.checks, c.Holds) (ha : d.ranges.Agree q) (hi : i < q) :
    d.ranges.iccid.number i < 10 ^ 18 ∧ d.ranges.imsi.number i < 10 ^ 15 ∧
      d.ranges.msisdn.number i < 10 ^ 15 := by
  obtain ⟨⟨hif, hil⟩, ⟨hmf, hml⟩, hnf, hnl⟩ := ranges_lt h
  obtain ⟨hi1, hi2, hi3⟩ := Sequences.lt_lengths ha hi
  exact ⟨Range.number_lt hi1 hif hil, Range.number_lt hi2 hmf hml, Range.number_lt hi3 hnf hnl⟩

theorem length_payload_subscriber (h : ∀ c ∈ d.checks, c.Holds) (ha : d.ranges.Agree q)
    (hi : i < q) :
    (padded d.ranges.iccid.width (d.ranges.iccid.number i)).length = Luhn.payloadLength := by
  obtain ⟨hiccid, -, -⟩ := numbers_lt h ha hi
  have h18 : 0 < 18 := by decide
  exact length_padded h18 hiccid

theorem isSubscriber_subscriber (h : ∀ c ∈ d.checks, c.Holds) (ha : d.ranges.Agree q)
    (hi : i < q) : (d.ranges.subscriber i).IsSubscriber := by
  obtain ⟨hiccid, himsi, hmsisdn⟩ := numbers_lt h ha hi
  obtain ⟨-, -, hfirst, -⟩ := forms_of_checks h
  have hlen := length_payload_subscriber h ha hi
  have hdigits := allDigits_padded d.ranges.iccid.width (d.ranges.iccid.number i)
  have hm : IsImsi (d.ranges.subscriber i).imsi := isImsi_padded himsi
  have hn : IsMsisdn (d.ranges.subscriber i).msisdn := isMsisdn_padded hfirst.2.2 hmsisdn
  refine ⟨Field.iccid_completed hdigits hlen, ?_, Field.imsi_of_isImsi hm, hm,
    Field.msisdn_of_isMsisdn hn, hn⟩
  have hlist : (d.ranges.subscriber i).iccid.toList =
      Luhn.completed (padded d.ranges.iccid.width (d.ranges.iccid.number i)) := String.toList_ofList
  rw [hlist]
  refine ⟨Luhn.allDigits_completed hdigits, ?_⟩
  rw [Luhn.completed, List.length_append, hlen]
  rfl

end Declaration

/-- The cursor of an accepted batch answers with as many subscribers as the quantity says. Each
passes the checks of its fields, and no two of them share an identifier. -/
theorem Descriptor.subscribers_valid {d : Declaration} {b : Descriptor}
    (h : d.descriptor = .ok b) :
    (∀ n, (∃ e, b.cursor.answer n = some e) ↔ n < b.quantity) ∧
      (∀ n e, b.cursor.answer n = some e → e.IsSubscriber) ∧
      ∀ m n e e', b.cursor.answer m = some e → b.cursor.answer n = some e' → m ≠ n →
        e.Differs e' := by
  obtain ⟨hall, q, -, hspan, rfl⟩ := Declaration.descriptor_eq_ok_iff.mp h
  have ha := (d.agree_iff_spans q).mpr hspan
  have hanswer := fun n e => Declaration.answer_eq_some_iff (d := d) (n := n) (e := e) ha
  refine ⟨fun n => ?_, fun n e he => ?_, fun m n e e' he he' hne => ?_⟩
  · constructor
    · rintro ⟨e, he⟩
      exact ((hanswer n e).mp he).1
    · intro hn
      exact ⟨_, (hanswer n _).mpr ⟨hn, rfl⟩⟩
  · obtain ⟨hn, rfl⟩ := (hanswer n e).mp he
    exact Declaration.isSubscriber_subscriber hall ha hn
  · obtain ⟨hm, rfl⟩ := (hanswer m e).mp he
    obtain ⟨hn, rfl⟩ := (hanswer n e').mp he'
    exact Sequences.subscriber_differs ha
      (fun i hi => Declaration.length_payload_subscriber hall ha hi) hm hn hne

/-- Two of ten subscribers, counted down in their MSISDNs. -/
theorem Descriptor.sample_subscribers :
    Declaration.sample.descriptor = .ok (Declaration.sample.accepted 10) ∧
      (Entry.mk "8901000000000000092" "242017100000237" "0000000000").IsSubscriber ∧
      (Entry.mk "8901000000000000084" "242017100000236" "0000000001").Differs
        ⟨"8901000000000000092", "242017100000237", "0000000000"⟩ := by
  obtain ⟨-, hvalid, hdiffers⟩ := Descriptor.subscribers_valid Declaration.sample_accepted
  have h8 : (Declaration.sample.accepted 10).cursor.answer 8 =
      some ⟨"8901000000000000084", "242017100000236", "0000000001"⟩ := by decide +kernel
  have h9 : (Declaration.sample.accepted 10).cursor.answer 9 =
      some ⟨"8901000000000000092", "242017100000237", "0000000000"⟩ := by decide +kernel
  exact ⟨Declaration.sample_accepted, hvalid 9 _ h9, hdiffers 8 9 _ _ h8 h9 (by decide)⟩

/-! ## The ends of a batch -/

/-- A subscriber with the payload of an ICCID and its check digit, an IMSI and an MSISDN. -/
structure Entry.Has (e : Entry) (iccid imsi msisdn : String) : Prop where
  iccid : ∃ c, Luhn.IsCheckDigit (iccid.toList.take 18) c ∧
    e.iccid.toList = iccid.toList.take 18 ++ [c]
  imsi : e.imsi = imsi
  msisdn : e.msisdn = msisdn

/-- The MSISDN `last` as it is written behind the MSISDN `first`. -/
def filledUp (first last : String) : String :=
  String.ofList (padded first.toList.length (value last.toList))

/-- An MSISDN is filled up to itself if it is as long as the first one, or longer and without zeros
in front. -/
theorem filledUp_eq_iff {first last : String} (hf : IsMsisdn first) (hl : IsMsisdn last) :
    filledUp first last = last ↔ last.toList.length = first.toList.length ∨
      (first.toList.length < last.toList.length ∧ last.toList.head? ≠ some '0') := by
  have hne : last.toList ≠ [] := List.ne_nil_of_length_pos hl.2.1
  have hle := length_render_value_le hl.1 hne
  have hlist : filledUp first last = last ↔
      padded first.toList.length (value last.toList) = last.toList := by
    rw [← String.toList_inj, filledUp, String.toList_ofList]
  rw [hlist, padded_eq_iff hl.1 rfl]
  by_cases hlt : first.toList.length < last.toList.length
  · have hfirst : 1 ≤ first.toList.length := hf.2.1
    obtain ⟨c, r, hcr⟩ := List.exists_cons_of_ne_nil hne
    rw [hcr] at hle hlt ⊢
    have hr : r ≠ [] := by
      rintro rfl
      rw [List.length_singleton] at hlt
      omega
    have hcons := length_render_value_cons (hcr ▸ hl.1) hr
    rw [List.head?_cons, ne_eq, Option.some.injEq, ← ne_eq, ← hcons]
    omega
  · omega

namespace Declaration

variable {d : Declaration} {q i : Nat}

theorem exists_checkDigit_subscriber {iccid : String} (h : IsIccid iccid)
    (hnum : d.ranges.iccid.number i = iccidNumber iccid) :
    ∃ c, Luhn.IsCheckDigit (iccid.toList.take 18) c ∧
      (d.ranges.subscriber i).iccid.toList = iccid.toList.take 18 ++ [c] := by
  have hdigits : AllDigits (iccid.toList.take 18) := h.1.take 18
  have hlen := Range.length_take_of_isIccid h
  have hne : iccid.toList.take 18 ≠ [] := List.ne_nil_of_length_pos (by omega)
  have hpadded : padded d.ranges.iccid.width (d.ranges.iccid.number i) = iccid.toList.take 18 := by
    have hself := padded_value hdigits hne
    rw [hlen] at hself
    rw [hnum]
    exact hself
  refine ⟨_, Luhn.isCheckDigit_completed hdigits, ?_⟩
  show (String.ofList (Luhn.completed
    (padded d.ranges.iccid.width (d.ranges.iccid.number i)))).toList = _
  rw [String.toList_ofList, hpadded, Luhn.completed]

theorem imsi_subscriber {imsi : String} (h : IsImsi imsi)
    (hnum : d.ranges.imsi.number i = value imsi.toList) :
    (d.ranges.subscriber i).imsi = imsi := by
  have hne : imsi.toList ≠ [] := List.ne_nil_of_length_pos (by rw [h.2]; decide)
  have hself := padded_value h.1 hne
  rw [h.2] at hself
  show String.ofList (padded 15 (d.ranges.imsi.number i)) = imsi
  rw [hnum, hself, String.ofList_toList]

theorem has_first (h : ∀ c ∈ d.checks, c.Holds) :
    (d.ranges.subscriber 0).Has d.iccid.first d.imsi.first d.msisdn.first := by
  obtain ⟨⟨hi, -⟩, ⟨hm, -⟩, hn, -⟩ := forms_of_checks h
  refine ⟨exists_checkDigit_subscriber hi (Range.number_zero _),
    imsi_subscriber hm (Range.number_zero _), ?_⟩
  have hself := padded_value hn.1 (List.ne_nil_of_length_pos hn.2.1)
  show String.ofList (padded d.msisdn.first.toList.length (d.ranges.msisdn.number 0)) = _
  rw [Range.number_zero, show d.ranges.msisdn.first = value d.msisdn.first.toList from rfl, hself,
    String.ofList_toList]

theorem has_last (h : ∀ c ∈ d.checks, c.Holds) (ha : d.ranges.Agree q) :
    (d.ranges.subscriber (q - 1)).Has d.iccid.last d.imsi.last
      (filledUp d.msisdn.first d.msisdn.last) := by
  obtain ⟨⟨-, hi⟩, ⟨-, hm⟩, -⟩ := forms_of_checks h
  obtain ⟨h1, h2, h3⟩ := ha
  have hnumber : ∀ r : Range, r.length = q → r.number (q - 1) = r.last := by
    intro r hr
    rw [← hr, Range.number_last]
  refine ⟨exists_checkDigit_subscriber hi (hnumber _ (h1.trans (h2.trans h3))),
    imsi_subscriber hm (hnumber _ (h2.trans h3)), ?_⟩
  show String.ofList (padded d.msisdn.first.toList.length (d.ranges.msisdn.number (q - 1))) = _
  rw [hnumber _ h3]
  rfl

end Declaration

/-- The first and the last subscriber of an accepted batch are those declared, with check digits
behind their ICCIDs. The last MSISDN is filled up to the length of the first: it comes as declared
if it is as long as the first, or longer and without zeros in front, and else not. -/
theorem Descriptor.ends_regenerate {d : Declaration} {b : Descriptor} (h : d.descriptor = .ok b) :
    ∃ first last, b.cursor.answer 0 = some first ∧ b.cursor.answer (b.quantity - 1) = some last ∧
      b.cursor.answer b.quantity = none ∧
      first.Has d.iccid.first d.imsi.first d.msisdn.first ∧
      last.Has d.iccid.last d.imsi.last (filledUp d.msisdn.first d.msisdn.last) ∧
      (last.msisdn = d.msisdn.last ↔
        d.msisdn.last.toList.length = d.msisdn.first.toList.length ∨
          (d.msisdn.first.toList.length < d.msisdn.last.toList.length ∧
            d.msisdn.last.toList.head? ≠ some '0')) := by
  obtain ⟨hall, q, hq, hspan, rfl⟩ := Declaration.descriptor_eq_ok_iff.mp h
  have ha := (d.agree_iff_spans q).mpr hspan
  obtain ⟨-, -, hf, hl⟩ := Declaration.forms_of_checks hall
  have hpos : 0 < q := by
    obtain ⟨-, -, hlen⟩ := hspan
    rw [← hlen]
    exact Nat.succ_pos _
  have hlast := Declaration.has_last hall ha
  refine ⟨d.ranges.subscriber 0, d.ranges.subscriber (q - 1), ?_, ?_, ?_,
    Declaration.has_first hall, hlast, ?_⟩
  · exact (Declaration.answer_eq_some_iff ha).mpr ⟨hpos, rfl⟩
  · exact (Declaration.answer_eq_some_iff ha).mpr ⟨Nat.sub_lt hpos Nat.one_pos, rfl⟩
  · rw [Declaration.answer_accepted ha]
    exact if_neg (Nat.lt_irrefl q)
  · rw [hlast.msisdn]
    exact filledUp_eq_iff hf hl

/-- The last of ten subscribers has an MSISDN of ten digits, where one digit is declared. -/
theorem Descriptor.sample_ends :
    Declaration.sample.descriptor = .ok (Declaration.sample.accepted 10) ∧
      ∃ last, (Declaration.sample.accepted 10).cursor.answer 9 = some last ∧
        last.Has "890100000000000009" "242017100000237" "0000000000" := by
  obtain ⟨first, last, -, hlast, -, -, hhas, -⟩ :=
    Descriptor.ends_regenerate Declaration.sample_accepted
  have hfilled : filledUp Declaration.sample.msisdn.first Declaration.sample.msisdn.last =
      "0000000000" := by decide +kernel
  rw [hfilled] at hhas
  exact ⟨Declaration.sample_accepted, last, hlast, hhas⟩

/-- A last MSISDN that is shorter than the first does not come as declared. -/
theorem Descriptor.not_ends_verbatim :
    ¬ ∀ (d : Declaration) (b : Descriptor), d.descriptor = .ok b →
      ∃ first last, b.cursor.answer 0 = some first ∧
        b.cursor.answer (b.quantity - 1) = some last ∧
        first.Has d.iccid.first d.imsi.first d.msisdn.first ∧
        last.Has d.iccid.last d.imsi.last d.msisdn.last := by
  intro hall
  obtain ⟨first, last, -, hlast, -, hhas⟩ :=
    hall Declaration.sample (Declaration.sample.accepted 10) Declaration.sample_accepted
  have hnine : (Declaration.sample.accepted 10).cursor.answer 9 =
      some ⟨"8901000000000000092", "242017100000237", "0000000000"⟩ := by decide +kernel
  have hmsisdn := hhas.msisdn
  rw [show last = ⟨"8901000000000000092", "242017100000237", "0000000000"⟩ from
    Option.some.inj (hlast.symm.trans hnine)] at hmsisdn
  exact absurd hmsisdn (by decide)

end Provisioning.Batch
