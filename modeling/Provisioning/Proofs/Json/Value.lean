import Provisioning.Proofs.Json.Compact
/-!
# Compact texts as values

* `Decoder.value` : the value that a tree stands for, with all that it holds;
* `value_treeOf` : the tree of a value stands for that value;
* `decode_value_compact` : a compact text is read as the value that was written;
* `compact_inj` : two values have different compact texts.
-/

namespace Provisioning.Json
open Utf8

mutual

/-- The value that a tree stands for; an object keeps all its members, in order. -/
def Decoder.value : Tree → Except Fault Json
  | .null => .ok .null
  | .bool b => .ok (.bool b)
  | .number literal =>
    match decode? literal with
    | some s => .ok (.number s)
    | none => .error .malformed
  | .string body => (text body).map .string
  | .array items ending => do
    let vs ← Decoder.itemValues items
    endOf ending
    return .array vs
  | .object members ending => do
    let ms ← Decoder.memberValues members
    objectEnd ending
    return .object ms
  | t => .error (expectation t)

def Decoder.itemValues : List Tree → Except Fault (List Json)
  | [] => .ok []
  | t :: r => do
    let v ← Decoder.value t
    let vs ← Decoder.itemValues r
    return v :: vs

def Decoder.memberValues : List (List UInt8 × Tree) → Except Fault (List (String × Json))
  | [] => .ok []
  | (body, t) :: r => do
    let key ← text body
    let v ← Decoder.value t
    let ms ← Decoder.memberValues r
    return (key, v) :: ms

end

mutual

theorem value_treeOf : ∀ v, Decoder.value (treeOf v) = .ok v
  | .null => rfl
  | .bool _ => rfl
  | .number literal => by
    unfold treeOf Decoder.value
    rw [encodeText, decode?_encode, String.ofList_toList]
  | .string s => by
    unfold treeOf Decoder.value
    rw [text_bodyOf]
    rfl
  | .array items => by
    unfold treeOf Decoder.value
    rw [itemValues_itemTrees items]
    rfl
  | .object members => by
    unfold treeOf Decoder.value
    rw [memberValues_memberTrees members]
    rfl

theorem itemValues_itemTrees : ∀ items, Decoder.itemValues (itemTrees items) = .ok items
  | [] => rfl
  | v :: r => by
    unfold itemTrees Decoder.itemValues
    rw [value_treeOf v, itemValues_itemTrees r]
    rfl

theorem memberValues_memberTrees :
    ∀ members, Decoder.memberValues (memberTrees members) = .ok members
  | [] => rfl
  | (k, v) :: r => by
    unfold memberTrees Decoder.memberValues
    rw [text_bodyOf, value_treeOf v, memberValues_memberTrees r]
    rfl

end

theorem decode_value_compact {v : Json} (h : IsNumberless v) :
    decode Decoder.value (encodeText v.compact) = .ok v := by
  rw [decode_compact h, value_treeOf]

theorem compact_inj {v w : Json} (hv : IsNumberless v) (hw : IsNumberless w)
    (h : v.compact = w.compact) : v = w := by
  have hread := decode_value_compact hv
  rw [h, decode_value_compact hw] at hread
  exact (Except.ok.inj hread).symm

end Provisioning.Json
