import Provisioning.Es2.Codec
import Provisioning.Proofs.Json.Compact
/-!
# Responses as documents, and read again

* `members_cons` : one member of a record that is read;
* `ProfileState.ofName_name` : a state that comes from a name is known by its name;
* `Reads` : a response that is read from its compact document;
* `ProfileStatusResponse.reads`, `DownloadOrderResponse.reads`, `ConfirmOrderResponse.reads` : the
  responses of an activation are.
-/

namespace Provisioning.Json

variable {σ α : Type}

theorem record_object {fields : List (RecordField σ)} {default s : σ}
    {ms : List (List UInt8 × Tree)} (h : members fields [] default ms = .ok s) :
    Decoder.record fields default (.object ms none) = .ok s := by
  show (members fields [] default ms >>= fun s => objectEnd none >>= fun _ => pure s) = .ok s
  rw [h]
  rfl

/-- A member with a known name, which has not come before, goes into the record. -/
theorem members_cons {fields : List (RecordField σ)} {seen : List String} {s s' u : σ}
    {key : String} {t : Tree} {r : List (List UInt8 × Tree)} {f : RecordField σ}
    (hfind : fields.find? (·.name == key) = some f) (hseen : seen.contains key = false)
    (hput : f.put s t = .ok s') (h : members fields (key :: seen) s' r = .ok u) :
    members fields seen s ((bodyOf key, t) :: r) = .ok u := by
  rw [members, text_bodyOf]
  dsimp only [bind, Except.bind]
  rw [hfind]
  dsimp only
  rw [hseen, if_neg Bool.false_ne_true, hput]
  exact h

theorem put_of_read {name : String} {read : Decoder α} {set : σ → α → σ} {t : Tree} {a : α}
    (h : read t = .ok a) (s : σ) : (RecordField.of name read set).put s t = .ok (set s a) := by
  show (read t).map (set s) = .ok (set s a)
  rw [h]
  rfl

theorem put_orDefault {name : String} {default a : α} {read : Decoder α} {set : σ → α → σ}
    {t : Tree} (ht : t ≠ .null) (h : read t = .ok a) (s : σ) :
    (RecordField.of name (Decoder.orDefault default read) set).put s t = .ok (set s a) := by
  apply put_of_read
  cases t with
  | null => exact absurd rfl ht
  | _ => exact h

theorem read_list {item : Decoder α} {toJson : α → Json} {as : List α}
    (h : ∀ a ∈ as, item (treeOf (toJson a)) = .ok a) :
    Decoder.list item (treeOf (.array (as.map toJson))) = .ok as := by
  have hmap : (itemTrees (as.map toJson)).mapM item = .ok as := by
    rw [itemTrees_eq_map]
    induction as with
    | nil => rfl
    | cons a as ih =>
      rw [List.map_cons, List.map_cons, List.mapM_cons, h a List.mem_cons_self,
        ih fun b hb => h b (List.mem_cons_of_mem a hb)]
      rfl
  show ((itemTrees (as.map toJson)).mapM item >>= fun as => endOf none >>= fun _ => pure as) = _
  rw [hmap]
  rfl

end Provisioning.Json

namespace Provisioning.Es2
open Json

variable {σ α : Type}

theorem put_textField (name : String) (set : σ → String → σ) (s : σ) (v : String) :
    (textField name set).put s (treeOf (.string v)) = .ok (set s v) :=
  put_of_read (text_bodyOf v) s

theorem put_optionalField (name : String) (set : σ → Option String → σ) (s : σ) (v : String) :
    (optionalField name set).put s (treeOf (.string v)) = .ok (set s (some v)) := by
  apply put_of_read
  show (text (bodyOf v)).map some = .ok (some v)
  rw [text_bodyOf]
  rfl

/-! ## Headers -/

theorem StatusCodeData.read_toJson (d : StatusCodeData) :
    StatusCodeData.decoder (treeOf d.toJson) = .ok d := by
  apply record_object
  refine members_cons rfl rfl (put_textField _ _ _ _) ?_
  refine members_cons rfl rfl (put_textField _ _ _ _) ?_
  refine members_cons rfl rfl (put_textField _ _ _ _) ?_
  refine members_cons rfl rfl (put_textField _ _ _ _) ?_
  rfl

theorem ExecutionStatus.read_toJson (e : ExecutionStatus) :
    ExecutionStatus.decoder (treeOf e.toJson) = .ok e := by
  apply record_object
  refine members_cons rfl rfl (put_textField _ _ _ _) ?_
  refine members_cons rfl rfl (put_orDefault (by nofun) e.statusCodeData.read_toJson _) ?_
  rfl

theorem ResponseHeader.read_toJson (h : ResponseHeader) :
    ResponseHeader.decoder (treeOf h.toJson) = .ok h := by
  apply record_object
  refine members_cons rfl rfl (put_orDefault (by nofun) h.executionStatus.read_toJson _) ?_
  rfl

theorem put_headerField (set : σ → ResponseHeader → σ) (s : σ) (h : ResponseHeader) :
    (headerField set).put s (treeOf h.toJson) = .ok (set s h) :=
  put_orDefault (by nofun) h.read_toJson s

theorem ResponseHeader.isNumberless (h : ResponseHeader) : IsNumberless h.toJson := by
  simp [ResponseHeader.toJson, ExecutionStatus.toJson, StatusCodeData.toJson, IsNumberless,
    MembersNumberless]

/-! ## Profiles -/

namespace ProfileState

theorem name_ofName (s : String) : (ofName s).name = s := by
  unfold ofName
  cases h : known.find? (·.name == s) with
  | none => rfl
  | some p =>
    have hp := List.find?_some h
    exact beq_iff_eq.mp hp

theorem ofName_name {p : ProfileState} {s : String} (h : p = ofName s) : ofName p.name = p := by
  rw [h, name_ofName]

theorem ofName_eq_iff {p : ProfileState} (hp : p ∈ known) (s : String) :
    ofName s = p ↔ s = p.name := by
  constructor
  · intro h
    rw [← h, name_ofName]
  · rintro rfl
    have hall : ∀ p ∈ known, ofName p.name = p := by decide
    exact hall p hp

end ProfileState

/-- The state comes from a name. -/
def ProfileStatus.IsNamed (p : ProfileStatus) : Prop := ∃ s, p.state = .ofName s

theorem ProfileStatus.read_toJson {p : ProfileStatus} (h : p.IsNamed) :
    ProfileStatus.decoder (treeOf p.toJson) = .ok p := by
  have hstate : ProfileState.decoder (treeOf p.state.toJson) = .ok p.state := by
    obtain ⟨s, hs⟩ := h
    show (text (bodyOf p.state.name)).map ProfileState.ofName = .ok p.state
    rw [text_bodyOf]
    exact congrArg Except.ok (ProfileState.ofName_name hs)
  have hlock : Decoder.bool (treeOf (.bool p.lockFlag)) = .ok p.lockFlag := rfl
  apply record_object
  refine members_cons rfl rfl (put_textField _ _ _ _) ?_
  refine members_cons rfl rfl (put_textField _ _ _ _) ?_
  refine members_cons rfl rfl (put_orDefault (by nofun) hstate _) ?_
  refine members_cons rfl rfl (put_textField _ _ _ _) ?_
  refine members_cons rfl rfl (put_textField _ _ _ _) ?_
  refine members_cons rfl rfl (put_orDefault (by nofun) hlock _) ?_
  rfl

theorem ProfileStatus.isNumberless (p : ProfileStatus) : IsNumberless p.toJson := by
  simp [ProfileStatus.toJson, ProfileState.toJson, IsNumberless, MembersNumberless]

/-! ## Responses -/

/-- A response is read from the bytes of its compact document. -/
def Reads [Response α] (a : α) : Prop :=
  Json.decode Response.decoder (Utf8.encodeText (Response.toJson a).compact) = .ok a

theorem Reads.of_tree [Response α] {a : α} (hnumber : IsNumberless (Response.toJson a))
    (h : Response.decoder (treeOf (Response.toJson a)) = .ok a) : Reads a := by
  unfold Reads
  rw [decode_compact hnumber, h]

theorem ProfileStatusResponse.reads {r : ProfileStatusResponse} (h : ∀ p ∈ r.profiles, p.IsNamed) :
    Reads r := by
  have hlist : Decoder.list ProfileStatus.decoder
      (treeOf (.array (r.profiles.map ProfileStatus.toJson))) = .ok r.profiles :=
    read_list fun p hp => ProfileStatus.read_toJson (h p hp)
  have hitems : ItemsNumberless (r.profiles.map ProfileStatus.toJson) := by
    rw [itemsNumberless_iff]
    intro v hv
    obtain ⟨p, -, rfl⟩ := List.mem_map.mp hv
    exact p.isNumberless
  apply Reads.of_tree
  · exact ⟨r.header.isNumberless, hitems, trivial, trivial⟩
  · apply record_object
    refine members_cons rfl rfl (put_headerField _ _ _) ?_
    refine members_cons rfl rfl (put_orDefault (by nofun) hlist _) ?_
    refine members_cons rfl rfl (put_textField _ _ _ _) ?_
    rfl

theorem DownloadOrderResponse.reads (r : DownloadOrderResponse) : Reads r := by
  apply Reads.of_tree
  · exact ⟨r.header.isNumberless, trivial, trivial⟩
  · apply record_object
    refine members_cons rfl rfl (put_headerField _ _ _) ?_
    refine members_cons rfl rfl (put_textField _ _ _ _) ?_
    rfl

theorem ConfirmOrderResponse.reads (r : ConfirmOrderResponse) : Reads r := by
  obtain ⟨header, iccid, eid, matchingId, smdpAddress⟩ := r
  apply Reads.of_tree
  · cases eid <;> cases matchingId <;> cases smdpAddress <;>
      simp [Response.toJson, optionalMember, IsNumberless, MembersNumberless,
        ResponseHeader.isNumberless]
  · apply record_object
    refine members_cons rfl rfl (put_headerField _ _ _) ?_
    refine members_cons rfl rfl (put_textField _ _ _ _) ?_
    cases eid <;> cases matchingId <;> cases smdpAddress <;>
      repeat refine members_cons rfl rfl (put_optionalField _ _ _ _) ?_
    all_goals rfl

end Provisioning.Es2
