import Provisioning.Proofs.Es2.Document
/-!
# Requests as documents, and read again

* `Json.passOver_treeOf` : a value without a fault can be passed over; `Json.members_cons_unknown`
  is a member that a record does not know;
* `headerOf?` : the header that is read from the body of a request, whatever else it asks;
* `headerOf?_body` : it is the header that the request was posted with.
-/

namespace Provisioning.Json

variable {σ : Type}

mutual

theorem passOver_treeOf : ∀ v, passOver (treeOf v) = none
  | .null => rfl
  | .bool _ => rfl
  | .number _ => rfl
  | .string _ => rfl
  | .array items => passOverLast_itemTrees items
  | .object members => passOverLastMember_memberTrees members

theorem passOverLast_itemTrees : ∀ items, passOver.passOverLast (itemTrees items) = none
  | [] => rfl
  | [v] => passOver_treeOf v
  | _ :: w :: r => passOverLast_itemTrees (w :: r)

theorem passOverLastMember_memberTrees :
    ∀ members, passOver.passOverLastMember (memberTrees members) = none
  | [] => rfl
  | [(_, v)] => passOver_treeOf v
  | _ :: (k, w) :: r => passOverLastMember_memberTrees ((k, w) :: r)

end

/-- A member whose name no field has leaves the record as it is. -/
theorem members_cons_unknown {fields : List (RecordField σ)} {seen : List String} {s : σ}
    {key : String} {v : Json} {r : List (List UInt8 × Tree)}
    (hfind : fields.find? (·.name == key) = none) :
    members fields seen s ((bodyOf key, treeOf v) :: r) = members fields seen s r := by
  rw [members, text_bodyOf]
  dsimp only [bind, Except.bind]
  rw [hfind]
  dsimp only
  rw [passOver_treeOf]
  rfl

theorem members_memberTrees_of_unknown {fields : List (RecordField σ)} {seen : List String}
    (s : σ) {ms : List (String × Json)}
    (h : ∀ m ∈ ms, fields.find? (·.name == m.1) = none) :
    members fields seen s (memberTrees ms) = .ok s := by
  induction ms with
  | nil => rfl
  | cons m ms ih =>
    obtain ⟨key, v⟩ := m
    rw [memberTrees, members_cons_unknown (h (key, v) List.mem_cons_self),
      ih fun m hm => h m (List.mem_cons_of_mem _ hm)]

end Provisioning.Json

namespace Provisioning.Es2
open Json

/-! ## Headers of requests -/

namespace RequestHeader

def decoder : Decoder RequestHeader :=
  Decoder.record [
    textField "functionRequesterIdentifier" fun h s => { h with requesterId := s },
    textField "functionCallIdentifier" fun h s => { h with callId := s }] ⟨"", ""⟩

theorem read_header (h : RequestHeader) :
    RequestHeader.decoder (treeOf (Request.header h)) = .ok h := by
  apply record_object
  refine members_cons rfl rfl (put_textField _ _ _ _) ?_
  refine members_cons rfl rfl (put_textField _ _ _ _) ?_
  rfl

end RequestHeader

/-- Reads the header of a request, if it has one, and passes over all other members. -/
def Request.headerDecoder : Decoder (Option RequestHeader) :=
  Decoder.record [.of "header" RequestHeader.decoder fun _ h => some h] none

def headerOf? (body : String) : Option RequestHeader :=
  (Json.decode Request.headerDecoder (Utf8.encodeText body)).toOption.join

namespace Request

theorem isNumberless_body (r : Request) (h : RequestHeader) : IsNumberless (r.body h) := by
  cases r <;>
    simp [body, header, members, IsNumberless, MembersNumberless, ItemsNumberless]

theorem name_ne_header (r : Request) : ∀ m ∈ r.members, m.1 ≠ "header" := by
  cases r <;> simp [members]

theorem headerOf?_body (r : Request) (h : RequestHeader) :
    headerOf? (r.body h).compact = some h := by
  have hread : headerDecoder (treeOf (r.body h)) = .ok (some h) := by
    apply record_object
    refine members_cons rfl rfl (put_of_read h.read_header _) ?_
    refine members_memberTrees_of_unknown _ fun m hm => ?_
    have hne : ("header" == m.1) = false := beq_false_of_ne (Ne.symm (r.name_ne_header m hm))
    exact List.find?_eq_none.mpr fun f hf => by
      rw [List.mem_singleton.mp hf]
      exact ne_true_of_eq_false hne
  rw [headerOf?, decode_compact (r.isNumberless_body h), hread]
  rfl

end Request

end Provisioning.Es2
