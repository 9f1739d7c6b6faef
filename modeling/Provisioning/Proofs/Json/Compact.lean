import Mathlib.Data.List.Basic
import Provisioning.Proofs.Json.Text
/-!
# Compact texts as trees

* `IsNumberless` : a value without numbers;
* `tokensOf`, `treeOf` : its tokens and its tree;
* `Scans` : characters that are scanned as tokens, whatever is behind them; `scans_compactChars` is
  the compact text of a value;
* `build_tokensOf` : the tokens of a value are built into its tree;
* `decode_compact` : a decoder of a compact text reads the tree of the value.
-/

namespace Provisioning.Json
open Utf8

/-! ## Values, tokens and trees -/

mutual

def IsNumberless : Json → Prop
  | .number _ => False
  | .array items => ItemsNumberless items
  | .object members => MembersNumberless members
  | _ => True

def ItemsNumberless : List Json → Prop
  | [] => True
  | v :: r => IsNumberless v ∧ ItemsNumberless r

def MembersNumberless : List (String × Json) → Prop
  | [] => True
  | (_, v) :: r => IsNumberless v ∧ MembersNumberless r

end

mutual

def tokensOf : Json → List Token
  | .null => [.null]
  | .bool b => [.bool b]
  | .number literal => [.number (encodeText literal)]
  | .string s => [.string (bodyOf s)]
  | .array items => .openArray :: (itemTokens items ++ [.closeArray])
  | .object members => .openObject :: (memberTokens members ++ [.closeObject])

def itemTokens : List Json → List Token
  | [] => []
  | [v] => tokensOf v
  | v :: r => tokensOf v ++ .comma :: itemTokens r

def memberTokens : List (String × Json) → List Token
  | [] => []
  | [(k, v)] => .string (bodyOf k) :: .colon :: tokensOf v
  | (k, v) :: r => .string (bodyOf k) :: .colon :: (tokensOf v ++ .comma :: memberTokens r)

end

mutual

def treeOf : Json → Tree
  | .null => .null
  | .bool b => .bool b
  | .number literal => .number (encodeText literal)
  | .string s => .string (bodyOf s)
  | .array items => .array (itemTrees items) none
  | .object members => .object (memberTrees members) none

def itemTrees : List Json → List Tree
  | [] => []
  | v :: r => treeOf v :: itemTrees r

def memberTrees : List (String × Json) → List (List UInt8 × Tree)
  | [] => []
  | (k, v) :: r => (bodyOf k, treeOf v) :: memberTrees r

end

theorem itemTrees_eq_map (items : List Json) : itemTrees items = items.map treeOf := by
  induction items with
  | nil => rfl
  | cons v r ih => rw [itemTrees, ih, List.map_cons]

theorem itemsNumberless_iff {items : List Json} :
    ItemsNumberless items ↔ ∀ v ∈ items, IsNumberless v := by
  induction items with
  | nil => simp [ItemsNumberless]
  | cons v r ih => simp [ItemsNumberless, ih]

/-! ## Scanning -/

/-- Characters that are scanned as tokens, whatever is behind them. -/
def Scans (cs : List Char) (ts : List Token) : Prop :=
  ∀ front rest, tokensFrom front (encode cs ++ rest) = tokensFrom (ts.reverse ++ front) rest

theorem tokensFrom_cons {c : UInt8} (hc : isSpace c = false) (front : List Token)
    (r : List UInt8) :
    tokensFrom front (c :: r) = tokensFrom ((scan c r).1 :: front) (scan c r).2 := by
  rw [tokensFrom]
  simp [hc]

theorem Scans.nil : Scans [] [] := fun _ _ => rfl

theorem Scans.append {cs cs' : List Char} {ts ts' : List Token} (h : Scans cs ts)
    (h' : Scans cs' ts') : Scans (cs ++ cs') (ts ++ ts') := by
  intro front rest
  rw [encode_append, List.append_assoc, h, h', List.reverse_append, List.append_assoc]

theorem Scans.cons {c : Char} {cs : List Char} {t : Token} {ts : List Token} (h : Scans [c] [t])
    (h' : Scans cs ts) : Scans (c :: cs) (t :: ts) := h.append h'

theorem scans_mark {c : Char} {b : UInt8} {t : Token} (hc : encode [c] = [b])
    (hspace : isSpace b = false) (hmark : mark? b = some t) : Scans [c] [t] := by
  intro front rest
  have hscan : scan b rest = (t, rest) := by
    unfold scan
    rw [hmark]
  rw [hc, List.singleton_append, tokensFrom_cons hspace, hscan]
  rfl

theorem scans_openArray : Scans ['['] [.openArray] :=
  scans_mark (b := 0x5B) rfl (by decide) (by decide)

theorem scans_closeArray : Scans [']'] [.closeArray] :=
  scans_mark (b := 0x5D) rfl (by decide) (by decide)

theorem scans_openObject : Scans ['\x7b'] [.openObject] :=
  scans_mark (b := 0x7B) rfl (by decide) (by decide)

theorem scans_closeObject : Scans ['\x7d'] [.closeObject] :=
  scans_mark (b := 0x7D) rfl (by decide) (by decide)

theorem scans_comma : Scans [','] [.comma] := scans_mark (b := 0x2C) rfl (by decide) (by decide)

theorem scans_colon : Scans [':'] [.colon] := scans_mark (b := 0x3A) rfl (by decide) (by decide)

theorem scanWord_append (t : Token) (word rest : List UInt8) :
    scanWord t word (word ++ rest) = (t, rest) := by
  induction word with
  | nil => cases rest <;> rfl
  | cons w word ih =>
    rw [List.cons_append, scanWord]
    simp [ih]

theorem scans_null : Scans "null".toList [.null] := by
  intro front rest
  have hbytes : encode "null".toList ++ rest = 0x6E :: ([0x75, 0x6C, 0x6C] ++ rest) := rfl
  have hscan : scan 0x6E ([0x75, 0x6C, 0x6C] ++ rest) = (.null, rest) :=
    scanWord_append .null [0x75, 0x6C, 0x6C] rest
  rw [hbytes, tokensFrom_cons (by decide), hscan]
  rfl

theorem scans_true : Scans "true".toList [.bool true] := by
  intro front rest
  have hbytes : encode "true".toList ++ rest = 0x74 :: ([0x72, 0x75, 0x65] ++ rest) := rfl
  have hscan : scan 0x74 ([0x72, 0x75, 0x65] ++ rest) = (.bool true, rest) :=
    scanWord_append (.bool true) [0x72, 0x75, 0x65] rest
  rw [hbytes, tokensFrom_cons (by decide), hscan]
  rfl

theorem scans_false : Scans "false".toList [.bool false] := by
  intro front rest
  have hbytes : encode "false".toList ++ rest = 0x66 :: ([0x61, 0x6C, 0x73, 0x65] ++ rest) := rfl
  have hscan : scan 0x66 ([0x61, 0x6C, 0x73, 0x65] ++ rest) = (.bool false, rest) :=
    scanWord_append (.bool false) [0x61, 0x6C, 0x73, 0x65] rest
  rw [hbytes, tokensFrom_cons (by decide), hscan]
  rfl

theorem scans_quoted (s : String) : Scans (quoted s) [.string (bodyOf s)] := by
  intro front rest
  have hbytes : encode (quoted s) ++ rest = 0x22 :: (bodyOf s ++ 0x22 :: rest) := by
    rw [quoted, encode_cons, encode_append, bodyOf]
    simp only [List.append_assoc]
    rfl
  have hscan : scan 0x22 (bodyOf s ++ 0x22 :: rest) = (.string (bodyOf s), rest) :=
    scanString_bodyOf s rest
  rw [hbytes, tokensFrom_cons (by decide), hscan]
  rfl

mutual

theorem scans_compactChars : ∀ v, IsNumberless v → Scans v.compactChars (tokensOf v)
  | .null, _ => scans_null
  | .bool true, _ => scans_true
  | .bool false, _ => scans_false
  | .number _, h => h.elim
  | .string s, _ => scans_quoted s
  | .array items, h =>
    scans_openArray.cons ((scans_compactItems items h).append scans_closeArray)
  | .object members, h =>
    scans_openObject.cons ((scans_compactMembers members h).append scans_closeObject)

theorem scans_compactItems : ∀ items, ItemsNumberless items →
    Scans (compactItems items) (itemTokens items)
  | [], _ => Scans.nil
  | [v], h => scans_compactChars v h.1
  | v :: w :: r, h =>
    (scans_compactChars v h.1).append (scans_comma.cons (scans_compactItems (w :: r) h.2))

theorem scans_compactMembers : ∀ members, MembersNumberless members →
    Scans (compactMembers members) (memberTokens members)
  | [], _ => Scans.nil
  | [(k, v)], h => (scans_quoted k).append (scans_colon.cons (scans_compactChars v h.1))
  | (k, v) :: m :: r, h =>
    (scans_quoted k).append (scans_colon.cons
      ((scans_compactChars v h.1).append (scans_comma.cons (scans_compactMembers (m :: r) h.2))))

end

theorem tokens_compact {v : Json} (h : IsNumberless v) :
    tokens (encodeText v.compact) = tokensOf v := by
  have hscan := scans_compactChars v h [] []
  rw [List.append_nil, List.append_nil] at hscan
  rw [tokens, encodeText, compact, String.toList_ofList, hscan, tokensFrom, List.reverse_reverse]

/-! ## Building -/

def Next.run : Next → List Token → Tree × List Token
  | .read stack expect, r => build stack expect r
  | .done v, r => (v, r)
  | .broken v, _ => (v, [])

theorem build_cons (stack : List Frame) (expect : Expect) (t : Token) (r : List Token) :
    build stack expect (t :: r) = (step stack expect t).run r := by
  rw [build]
  cases step stack expect t <;> rfl

theorem exists_tokensOf (v : Json) : ∃ t r, tokensOf v = t :: r ∧ t ≠ .closeArray := by
  cases v <;> exact ⟨_, _, rfl, by simp⟩

theorem exists_itemTokens (v : Json) (items : List Json) :
    ∃ t r, itemTokens (v :: items) = t :: r ∧ t ≠ .closeArray := by
  obtain ⟨t, r, hv, ht⟩ := exists_tokensOf v
  cases items with
  | nil => exact ⟨t, r, hv, ht⟩
  | cons w items =>
    refine ⟨t, r ++ .comma :: itemTokens (w :: items), ?_, ht⟩
    rw [itemTokens, hv, List.cons_append]
    simp

theorem exists_memberTokens (m : String × Json) (members : List (String × Json)) :
    ∃ body r, memberTokens (m :: members) = .string body :: r := by
  obtain ⟨k, v⟩ := m
  cases members <;> exact ⟨_, _, rfl⟩

theorem build_itemOrEnd {stack : List Frame} {t : Token} {r : List Token}
    (ht : t ≠ .closeArray) :
    build stack .itemOrEnd (t :: r) = build (.array [] :: stack) .value (t :: r) := by
  rw [build_cons, build_cons]
  cases t <;> first | rfl | exact absurd rfl ht

theorem build_keyOrEnd (stack : List Frame) (body : List UInt8) (r : List Token) :
    build stack .keyOrEnd (.string body :: r) = build stack (.key []) (.string body :: r) := by
  rw [build_cons, build_cons]
  rfl

mutual

/-- The tokens of a value are built into its tree. -/
theorem build_tokensOf : ∀ v stack rest,
    build stack .value (tokensOf v ++ rest) = (finish (treeOf v) stack).run rest
  | .null, stack, rest => build_cons stack .value _ rest
  | .bool _, stack, rest => build_cons stack .value _ rest
  | .number _, stack, rest => build_cons stack .value _ rest
  | .string _, stack, rest => build_cons stack .value _ rest
  | .array [], stack, rest => by
    show build stack .value (.openArray :: .closeArray :: rest) = _
    rw [build_cons]
    show build stack .itemOrEnd (.closeArray :: rest) = _
    rw [build_cons]
    rfl
  | .array (v :: items), stack, rest => by
    obtain ⟨t, r, htokens, ht⟩ := exists_itemTokens v items
    have hitems := build_itemTokens (v :: items) (by simp) [] stack rest
    have hbegin : build stack .itemOrEnd (itemTokens (v :: items) ++ .closeArray :: rest) =
        build (.array [] :: stack) .value (itemTokens (v :: items) ++ .closeArray :: rest) := by
      rw [htokens]
      exact build_itemOrEnd ht
    have hsplit : tokensOf (.array (v :: items)) ++ rest =
        .openArray :: (itemTokens (v :: items) ++ .closeArray :: rest) := by
      rw [tokensOf, List.cons_append, List.append_assoc]
      rfl
    rw [hsplit, build_cons]
    exact hbegin.trans hitems
  | .object [], stack, rest => by
    show build stack .value (.openObject :: .closeObject :: rest) = _
    rw [build_cons]
    show build stack .keyOrEnd (.closeObject :: rest) = _
    rw [build_cons]
    rfl
  | .object (m :: members), stack, rest => by
    obtain ⟨body, r, htokens⟩ := exists_memberTokens m members
    have hmembers := build_memberTokens (m :: members) (by simp) [] stack rest
    have hbegin : build stack .keyOrEnd (memberTokens (m :: members) ++ .closeObject :: rest) =
        build stack (.key []) (memberTokens (m :: members) ++ .closeObject :: rest) := by
      rw [htokens]
      exact build_keyOrEnd stack body _
    have hsplit : tokensOf (.object (m :: members)) ++ rest =
        .openObject :: (memberTokens (m :: members) ++ .closeObject :: rest) := by
      rw [tokensOf, List.cons_append, List.append_assoc]
      rfl
    rw [hsplit, build_cons]
    exact hbegin.trans hmembers

theorem build_itemTokens : ∀ items, items ≠ [] → ∀ front stack rest,
    build (.array front :: stack) .value (itemTokens items ++ .closeArray :: rest) =
      (finish (.array (front.reverse ++ itemTrees items) none) stack).run rest
  | [], h, _, _, _ => absurd rfl h
  | [v], _, front, stack, rest => by
    rw [itemTokens, build_tokensOf v]
    show build stack (.commaOrEnd (treeOf v :: front)) (.closeArray :: rest) = _
    rw [build_cons]
    show (finish (.array (treeOf v :: front).reverse none) stack).run rest = _
    rw [List.reverse_cons]
    rfl
  | v :: w :: items, _, front, stack, rest => by
    have hsplit : itemTokens (v :: w :: items) ++ .closeArray :: rest =
        tokensOf v ++ .comma :: (itemTokens (w :: items) ++ .closeArray :: rest) := by
      rw [itemTokens, List.append_assoc]
      · rfl
      · simp
    rw [hsplit, build_tokensOf v]
    show build stack (.commaOrEnd (treeOf v :: front)) (.comma :: _) = _
    rw [build_cons]
    show build (.array (treeOf v :: front) :: stack) .value _ = _
    rw [build_itemTokens (w :: items) (by simp), List.reverse_cons, List.append_assoc]
    rfl

theorem build_memberTokens : ∀ members, members ≠ [] → ∀ front stack rest,
    build stack (.key front) (memberTokens members ++ .closeObject :: rest) =
      (finish (.object (front.reverse ++ memberTrees members) none) stack).run rest
  | [], h, _, _, _ => absurd rfl h
  | [(k, v)], _, front, stack, rest => by
    show build stack (.key front) (.string (bodyOf k) :: .colon ::
      (tokensOf v ++ .closeObject :: rest)) = _
    rw [build_cons]
    show build stack (.colon front (bodyOf k)) (.colon :: (tokensOf v ++ .closeObject :: rest)) = _
    rw [build_cons]
    show build (.object front (bodyOf k) :: stack) .value (tokensOf v ++ .closeObject :: rest) = _
    rw [build_tokensOf v]
    show build stack (.commaOrClose ((bodyOf k, treeOf v) :: front)) (.closeObject :: rest) = _
    rw [build_cons]
    show (finish (.object ((bodyOf k, treeOf v) :: front).reverse none) stack).run rest = _
    rw [List.reverse_cons]
    rfl
  | (k, v) :: m :: members, _, front, stack, rest => by
    have hsplit : memberTokens ((k, v) :: m :: members) ++ .closeObject :: rest =
        .string (bodyOf k) :: .colon :: (tokensOf v ++ .comma ::
          (memberTokens (m :: members) ++ .closeObject :: rest)) := by
      rw [memberTokens]
      · simp only [List.cons_append, List.append_assoc]
      · simp
    rw [hsplit, build_cons]
    show build stack (.colon front (bodyOf k)) (.colon :: (tokensOf v ++ _)) = _
    rw [build_cons]
    show build (.object front (bodyOf k) :: stack) .value (tokensOf v ++ _) = _
    rw [build_tokensOf v]
    show build stack (.commaOrClose ((bodyOf k, treeOf v) :: front)) (.comma :: _) = _
    rw [build_cons]
    show build stack (.key ((bodyOf k, treeOf v) :: front)) _ = _
    rw [build_memberTokens (m :: members) (by simp), List.reverse_cons, List.append_assoc]
    rfl

end

theorem parse_compact {v : Json} (h : IsNumberless v) :
    parse (encodeText v.compact) = (treeOf v, []) := by
  have hbuild := build_tokensOf v [] []
  rw [List.append_nil] at hbuild
  rw [parse, tokens_compact h, hbuild]
  rfl

theorem decode_compact {α : Type} {v : Json} (h : IsNumberless v) (read : Decoder α) :
    decode read (encodeText v.compact) = read (treeOf v) := by
  unfold decode
  rw [parse_compact h]
  show (read (treeOf v) >>= fun a => pure a) = read (treeOf v)
  rw [bind_pure]

end Provisioning.Json
