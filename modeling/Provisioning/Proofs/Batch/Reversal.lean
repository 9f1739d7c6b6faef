import Provisioning.Proofs.Batch.Partition
/-!
# A batch declared backwards

With the first and the last identifier of each family exchanged, a batch is declared from its end to
its beginning.

* `Range.reversed` : a range from its last number to its first; its numbers are those of the range,
  the last one first (`number_reversed`), and it counts the other way (`increment_reversed`);
* `Declaration.reversed` : the declaration with first and last exchanged;
* `Increment.Turns` : the increments of a family and of the family backwards;
* `Descriptor.lists_reversed` : it is accepted as well, and lists the subscribers from the last one
  to the first, but that the MSISDNs may be filled up to another length.
-/

namespace Provisioning.Batch
open Decimal

/-! ## Ranges -/

namespace Range

/-- The range from the last number to the first, its identifiers filled up to `width`. -/
def reversed (r : Range) (width : Nat) : Range := ⟨r.last, r.first, width⟩

variable {r : Range} {i : Nat} (width : Nat)

theorem length_reversed (r : Range) : (r.reversed width).length = r.length :=
  congrArg (· + 1) (Nat.add_comm _ _)

/-- Both ends are counted from: `i` steps back from the last number lead where the steps that are
left lead from the first. -/
theorem number_reversed (hi : i < r.length) :
    (r.reversed width).number i = r.number (r.length - 1 - i) := by
  unfold length at hi
  unfold number increment reversed length
  dsimp only
  split_ifs with hback hforth hforth
  · show r.last + i = r.first + _
    omega
  · show r.last + i = r.first - _
    omega
  · show r.last - i = r.first + _
    omega
  · omega

theorem increment_reversed (hlen : 1 < r.length) :
    (r.reversed width).increment.step = -r.increment.step := by
  unfold length at hlen
  unfold increment reversed
  dsimp only
  split_ifs with hback hforth hforth
  · omega
  · rfl
  · rfl
  · omega

theorem increment_of_length_eq_one (hlen : r.length = 1) : r.increment = .up := by
  unfold length at hlen
  exact if_pos (by omega)

end Range

/-- The increments of a family of `quantity` identifiers, and of the family backwards: they are
opposite, but a single identifier counts up either way. -/
def Increment.Turns (quantity : Nat) (forth back : Increment) : Prop :=
  (1 < quantity → back.step = -forth.step) ∧ (quantity = 1 → forth = .up ∧ back = .up)

theorem Range.turns {r : Range} {quantity : Nat} (hlen : r.length = quantity) (width : Nat) :
    Increment.Turns quantity r.increment (r.reversed width).increment := by
  subst hlen
  refine ⟨r.increment_reversed width, fun hone => ?_⟩
  have hback : (r.reversed width).length = 1 := (r.length_reversed width).trans hone
  exact ⟨increment_of_length_eq_one hone, increment_of_length_eq_one hback⟩

/-! ## Declarations -/

def Ends.reversed (e : Ends) : Ends := ⟨e.last, e.first⟩

theorem map_range_reverse {α : Type} {f g : Nat → α} {n : Nat}
    (h : ∀ i < n, g i = f (n - 1 - i)) :
    (List.range n).map g = ((List.range n).map f).reverse := by
  apply List.ext_getElem
  · simp
  · intro i hi _
    have hlt : i < n := by simpa using hi
    simp [h i hlt]

namespace Declaration

/-- The declaration with first and last exchanged in each family. -/
def reversed (d : Declaration) : Declaration :=
  { d with iccid := d.iccid.reversed, imsi := d.imsi.reversed, msisdn := d.msisdn.reversed }

variable {d : Declaration} {q i : Nat}

theorem ranges_reversed (d : Declaration) :
    d.reversed.ranges = ⟨d.ranges.iccid.reversed 18, d.ranges.imsi.reversed 15,
      d.ranges.msisdn.reversed d.msisdn.last.toList.length⟩ := rfl

theorem checks_reversed (h : ∀ c ∈ d.checks, c.Holds) : ∀ c ∈ d.reversed.checks, c.Holds := by
  simp only [checks, List.forall_mem_cons] at h ⊢
  obtain ⟨hi, hi', hm, hm', hs, hs', hrest⟩ := h
  exact ⟨hi', hi, hm', hm, hs', hs, hrest⟩

theorem agree_reversed (ha : d.ranges.Agree q) : d.reversed.ranges.Agree q := by
  rw [ranges_reversed]
  unfold Sequences.Agree at ha ⊢
  rwa [Range.length_reversed, Range.length_reversed, Range.length_reversed]

/-- Backwards, the subscriber at a place is the one at the place counted from the end; only its
MSISDN may have another length. -/
theorem subscriber_reversed (ha : d.ranges.Agree q) (hi : i < q) :
    (d.reversed.ranges.subscriber i).iccid = (d.ranges.subscriber (q - 1 - i)).iccid ∧
      (d.reversed.ranges.subscriber i).imsi = (d.ranges.subscriber (q - 1 - i)).imsi ∧
      value (d.reversed.ranges.subscriber i).msisdn.toList =
        value (d.ranges.subscriber (q - 1 - i)).msisdn.toList := by
  obtain ⟨h1, h2, h3⟩ := ha.length_eq
  have hnumber : ∀ (r : Range) (width : Nat), r.length = q →
      (r.reversed width).number i = r.number (q - 1 - i) := by
    rintro r width rfl
    exact Range.number_reversed width hi
  rw [ranges_reversed]
  unfold Sequences.subscriber
  dsimp only
  rw [hnumber _ _ h1, hnumber _ _ h2, hnumber _ _ h3, String.toList_ofList, String.toList_ofList,
    value_padded, value_padded]
  exact ⟨rfl, rfl, rfl⟩

end Declaration

/-- A batch declared backwards is accepted as well. Each family counts the other way, and the
subscribers come from the last one to the first: their ICCIDs and IMSIs as they are written, their
MSISDNs by their numbers. -/
theorem Descriptor.lists_reversed {d : Declaration} {b : Descriptor} (h : d.descriptor = .ok b) :
    ∃ r, d.reversed.descriptor = .ok r ∧
      r.quantity = b.quantity ∧ r.profileType = b.profileType ∧ r.url = b.url ∧
      Increment.Turns b.quantity b.iccidIncrement r.iccidIncrement ∧
      Increment.Turns b.quantity b.imsiIncrement r.imsiIncrement ∧
      Increment.Turns b.quantity b.msisdnIncrement r.msisdnIncrement ∧
      ∃ forth back, b.Lists forth ∧ r.Lists back ∧
        back.map (·.iccid) = (forth.map (·.iccid)).reverse ∧
        back.map (·.imsi) = (forth.map (·.imsi)).reverse ∧
        back.map (value ·.msisdn.toList) = (forth.map (value ·.msisdn.toList)).reverse := by
  obtain ⟨hall, q, hq, hspan, rfl⟩ := Declaration.descriptor_eq_ok_iff.mp h
  have ha := (d.agree_iff_spans q).mpr hspan
  have hback := Declaration.agree_reversed ha
  have hsubscriber := fun i hi => Declaration.subscriber_reversed (i := i) ha hi
  obtain ⟨h1, h2, h3⟩ := ha.length_eq
  refine ⟨d.reversed.accepted q, Declaration.descriptor_eq_ok_iff.mpr
    ⟨Declaration.checks_reversed hall, q, hq, (d.reversed.agree_iff_spans q).mp hback, rfl⟩,
    rfl, rfl, rfl, ?_, ?_, ?_, _, _, Declaration.lists_accepted ha,
    Declaration.lists_accepted hback, ?_, ?_, ?_⟩
  · exact Range.turns h1 18
  · exact Range.turns h2 15
  · exact Range.turns h3 d.msisdn.last.toList.length
  · rw [List.map_map, List.map_map]
    exact map_range_reverse fun i hi => (hsubscriber i hi).1
  · rw [List.map_map, List.map_map]
    exact map_range_reverse fun i hi => (hsubscriber i hi).2.1
  · rw [List.map_map, List.map_map]
    simp only [Function.comp_def]
    exact map_range_reverse fun i hi => (hsubscriber i hi).2.2

/-- Backwards, the MSISDNs of ten subscribers are filled up to one digit in place of ten. -/
theorem Descriptor.sample_reversed :
    Declaration.sample.descriptor = .ok (Declaration.sample.accepted 10) ∧
      ∃ r back, Declaration.sample.reversed.descriptor = .ok r ∧ r.Lists back ∧
        r.msisdnIncrement = .up ∧
        back.map (·.imsi) = ["242017100000237", "242017100000236", "242017100000235",
          "242017100000234", "242017100000233", "242017100000232", "242017100000231",
          "242017100000230", "242017100000229", "242017100000228"] ∧
        back.map (value ·.msisdn.toList) = [0, 1, 2, 3, 4, 5, 6, 7, 8, 9] := by
  obtain ⟨r, hr, -, -, -, -, -, hturns, forth, back, hforth, hback, -, himsi, hmsisdn⟩ :=
    Descriptor.lists_reversed Declaration.sample_accepted
  have hentries : forth = (Declaration.sample.accepted 10).entries := hforth.entries.symm
  refine ⟨Declaration.sample_accepted, r, back, hr, hback, ?_, ?_, ?_⟩
  · have hstep := hturns.1 (by decide)
    cases hup : r.msisdnIncrement with
    | up => rfl
    | down =>
      rw [hup] at hstep
      exact absurd hstep (by decide +kernel)
  · rw [himsi, hentries]
    decide +kernel
  · rw [hmsisdn, hentries]
    decide +kernel

end Provisioning.Batch
