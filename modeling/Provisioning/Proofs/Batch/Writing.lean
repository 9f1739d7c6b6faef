import Provisioning.Batch.Csv
import Provisioning.Proofs.Batch.Checksum
import Provisioning.Proofs.Batch.Partition
/-!
# ICCIDs with and without their check digits

An ICCID is written with its check digit or without it, and a batch is the same however its two are
written.

* `OtherWriting` : the same ICCID without the check digit it has, or with the one it has not; there
  is one for every ICCID (`IsIccid.exists_otherWriting`);
* `SameIccid` : an ICCID in either writing; it is an ICCID with the same number
  (`SameIccid.isIccid`, `SameIccid.iccidNumber_eq`);
* `Declaration.withIccids` : a declaration with other ICCIDs;
* `Declaration.accepted_withIccids` : what it is accepted as if they are the same;
* `Descriptor.checkDigits_immaterial` : check digits change nothing but the first ICCID as it is
  shown.
-/

namespace Provisioning.Batch
open Decimal

/-! ## Writings of an ICCID -/

/-- `t` is `s` without its check digit if `s` has one, and else with it. -/
def OtherWriting (s t : String) : Prop :=
  (s.toList.length = 19 ∧ t = Luhn.payload s) ∨ (s.toList.length = 18 ∧ Luhn.append? s = some t)

def SameIccid (s t : String) : Prop := t = s ∨ OtherWriting s t

theorem IsIccid.length_eq {s : String} (h : IsIccid s) :
    s.toList.length = 18 ∨ s.toList.length = 19 :=
  (isIccid_iff.mp h).2.imp_right And.left

theorem IsIccid.exists_otherWriting {s : String} (h : IsIccid s) : ∃ t, OtherWriting s t := by
  rcases h.length_eq with hn | hn
  · exact ⟨_, Or.inr ⟨hn, (Luhn.append?_payload h.1 hn).1⟩⟩
  · exact ⟨_, Or.inl ⟨hn, rfl⟩⟩

namespace OtherWriting

variable {s t : String}

theorem take_eq (ho : OtherWriting s t) (h : IsIccid s) :
    t.toList.take 18 = s.toList.take 18 := by
  rcases ho with ⟨-, rfl⟩ | ⟨hn, happend⟩
  · rw [Range.payload_of_isIccid h, List.take_take, Nat.min_self]
  · obtain rfl := Option.some.inj ((Luhn.append?_payload h.1 hn).1.symm.trans happend)
    rw [Luhn.toList_push_digitChar, List.take_append_of_le_length (Nat.le_of_eq hn.symm)]

theorem isIccid (ho : OtherWriting s t) (h : IsIccid s) : IsIccid t := by
  rcases ho with ⟨-, rfl⟩ | ⟨hn, happend⟩
  · unfold IsIccid
    rw [Range.payload_of_isIccid h]
    exact ⟨h.1.take 18, Or.inl (Range.length_take_of_isIccid h)⟩
  · obtain rfl := Option.some.inj ((Luhn.append?_payload h.1 hn).1.symm.trans happend)
    exact (Luhn.isIccid_push_iff h.1 hn (Luhn.complement_lt _)).mpr rfl

end OtherWriting

namespace SameIccid

variable {s t : String}

theorem isIccid (hs : SameIccid s t) (h : IsIccid s) : IsIccid t := by
  rcases hs with rfl | ho
  · exact h
  · exact ho.isIccid h

theorem iccidNumber_eq (hs : SameIccid s t) (h : IsIccid s) : iccidNumber t = iccidNumber s := by
  rcases hs with rfl | ho
  · rfl
  · exact congrArg value (ho.take_eq h)

end SameIccid

/-! ## Declarations -/

namespace Declaration

def withIccids (d : Declaration) (first last : String) : Declaration :=
  { d with iccid := ⟨first, last⟩ }

variable {d : Declaration} {first last : String}

theorem checks_withIccids (h : ∀ c ∈ d.checks, c.Holds) (hf : IsIccid first) (hl : IsIccid last) :
    ∀ c ∈ (d.withIccids first last).checks, c.Holds := by
  simp only [checks, List.forall_mem_cons] at h ⊢
  obtain ⟨-, -, hrest⟩ := h
  exact ⟨hf, hl, hrest⟩

theorem ranges_withIccids (hf : iccidNumber first = iccidNumber d.iccid.first)
    (hl : iccidNumber last = iccidNumber d.iccid.last) :
    (d.withIccids first last).ranges = d.ranges := by
  unfold ranges withIccids
  rw [hf, hl]

/-- Of ICCIDs with the same numbers, only the first one itself is shown. -/
theorem accepted_withIccids (hf : iccidNumber first = iccidNumber d.iccid.first)
    (hl : iccidNumber last = iccidNumber d.iccid.last) (q : Nat) :
    (d.withIccids first last).accepted q = { d.accepted q with firstIccid := first } := by
  unfold accepted
  rw [ranges_withIccids hf hl]
  rfl

end Declaration

/-- In place of the declared ICCIDs, either can be written without its check digit, if it has one,
or with it, if it has none. The declaration is accepted all the same, and the batch differs in the
first ICCID as it is shown and in nothing else: it lists the same subscribers, and what is imported
is the same text. -/
theorem Descriptor.checkDigits_immaterial {d : Declaration} {b : Descriptor}
    (h : d.descriptor = .ok b) :
    (∃ t, OtherWriting d.iccid.first t) ∧ (∃ t, OtherWriting d.iccid.last t) ∧
      ∀ first last, SameIccid d.iccid.first first → SameIccid d.iccid.last last →
        ∃ c, (d.withIccids first last).descriptor = .ok c ∧ c = { b with firstIccid := first } ∧
          (∃ es, b.Lists es ∧ c.Lists es) ∧ Csv.text c = Csv.text b := by
  obtain ⟨hall, q, hq, hspan, rfl⟩ := Declaration.descriptor_eq_ok_iff.mp h
  have ha := (d.agree_iff_spans q).mpr hspan
  obtain ⟨⟨hfirst, hlast⟩, -⟩ := Declaration.forms_of_checks hall
  refine ⟨hfirst.exists_otherWriting, hlast.exists_otherWriting, fun first last hf hl => ?_⟩
  have hfnumber := hf.iccidNumber_eq hfirst
  have hlnumber := hl.iccidNumber_eq hlast
  have hranges := Declaration.ranges_withIccids hfnumber hlnumber
  have ha' : (d.withIccids first last).ranges.Agree q := hranges ▸ ha
  have haccepted := Declaration.accepted_withIccids hfnumber hlnumber q
  have hlists := Declaration.lists_accepted ha'
  rw [hranges] at hlists
  refine ⟨(d.withIccids first last).accepted q, Declaration.descriptor_eq_ok_iff.mpr
    ⟨Declaration.checks_withIccids hall (hf.isIccid hfirst) (hl.isIccid hlast), q, hq,
      ((d.withIccids first last).agree_iff_spans q).mp ha', rfl⟩,
    haccepted, ⟨_, Declaration.lists_accepted ha, hlists⟩, ?_⟩
  rw [haccepted]
  rfl

/-- The first ICCID loses its check digit and the last one gets its own. -/
theorem Descriptor.sample_immaterial :
    Declaration.sample.descriptor = .ok (Declaration.sample.accepted 10) ∧
      ∃ c, (Declaration.sample.withIccids "890100000000000000"
          "8901000000000000092").descriptor = .ok c ∧
        c = { Declaration.sample.accepted 10 with firstIccid := "890100000000000000" } ∧
        Csv.text c = Csv.text (Declaration.sample.accepted 10) := by
  obtain ⟨-, -, hsame⟩ := Descriptor.checkDigits_immaterial Declaration.sample_accepted
  have hfirst : OtherWriting "8901000000000000001" "890100000000000000" :=
    Or.inl ⟨by decide, by decide +kernel⟩
  have hlast : OtherWriting "890100000000000009" "8901000000000000092" :=
    Or.inr ⟨by decide, by decide +kernel⟩
  obtain ⟨c, hc, hshown, -, htext⟩ := hsame _ _ (Or.inr hfirst) (Or.inr hlast)
  exact ⟨Declaration.sample_accepted, c, hc, hshown, htext⟩

end Provisioning.Batch
