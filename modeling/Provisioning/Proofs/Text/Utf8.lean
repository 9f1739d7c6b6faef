import Mathlib.Data.List.Induction
import Provisioning.Text.Utf8
/-!
# Characters and their bytes

* `decode?_encode` : the bytes of characters are read as those characters;
* `encode_of_decode?` : bytes that are read are the bytes of what is read;
* `utf8EncodeChar_of_lt`, `le_of_mem_utf8EncodeChar` : a character of ASCII is one byte, and every
  byte of any other is above those;
* `exists_append_of_encode` : bytes of ASCII at the end are characters at the end.
-/

namespace Provisioning.Utf8

theorem decode?_encode (s : List Char) : decode? (encode s) = some (String.ofList s) := by
  have hbytes : (⟨(encode s).toArray⟩ : ByteArray) = s.utf8Encode := by
    rw [List.utf8Encode, encode]
    exact ByteArray.ext List.data_toByteArray.symm
  have hvalid : s.utf8Encode.IsValidUTF8 := ByteArray.isValidUTF8_utf8Encode
  rw [decode?, hbytes, String.fromUTF8?, dif_pos hvalid]
  rfl

theorem encode_of_decode? {bytes : List UInt8} {s : String} (h : decode? bytes = some s) :
    encode s.toList = bytes := by
  unfold decode? String.fromUTF8? at h
  split at h
  · obtain rfl := Option.some.inj h
    have hbytes := String.utf8Encode_toList (b := String.fromUTF8 ⟨bytes.toArray⟩ ‹_›)
    have hdata := congrArg (fun b : ByteArray => b.data.toList) hbytes
    rw [List.utf8Encode, List.data_toByteArray] at hdata
    exact hdata
  · cases h

theorem encode_append (s t : List Char) : encode (s ++ t) = encode s ++ encode t :=
  List.flatMap_append

theorem encode_cons (c : Char) (s : List Char) :
    encode (c :: s) = String.utf8EncodeChar c ++ encode s := List.flatMap_cons

theorem utf8EncodeChar_of_lt {c : Char} (h : c.toNat < 128) :
    String.utf8EncodeChar c = [UInt8.ofNat c.toNat] := by
  have hle : c.val.toNat ≤ 127 := Nat.le_of_lt_succ h
  simp only [String.utf8EncodeChar, if_pos hle]
  rfl

theorem le_of_mem_utf8EncodeChar {c : Char} (h : 128 ≤ c.toNat) {b : UInt8}
    (hb : b ∈ String.utf8EncodeChar c) : 128 ≤ b.toNat := by
  have hgt : ¬ c.val.toNat ≤ 127 := Nat.not_le.mpr h
  simp only [String.utf8EncodeChar, if_neg hgt] at hb
  split_ifs at hb <;>
    simp only [List.mem_cons, List.not_mem_nil, or_false] at hb <;>
    rcases hb with rfl | rfl | rfl | rfl <;>
    simp only [UInt8.toNat_ofNat'] <;>
    omega

theorem utf8EncodeChar_ne_nil (c : Char) : String.utf8EncodeChar c ≠ [] := by
  have hlength : (String.utf8EncodeChar c).length = c.utf8Size := String.length_utf8EncodeChar c
  have hpos := c.utf8Size_pos
  intro h
  rw [h, List.length_nil] at hlength
  omega

theorem encode_singleton {c : Char} (h : c.toNat < 128) : encode [c] = [UInt8.ofNat c.toNat] := by
  rw [encode_cons, utf8EncodeChar_of_lt h]
  rfl

theorem exists_concat_of_encode {s : List Char} {bytes : List UInt8} {c : Char}
    (hc : c.toNat < 128) (h : encode s = bytes ++ [UInt8.ofNat c.toNat]) :
    ∃ r, s = r ++ [c] ∧ encode r = bytes := by
  rcases List.eq_nil_or_concat s with rfl | ⟨r, d, rfl⟩
  · exact absurd h.symm (by simp [encode])
  rw [List.concat_eq_append, encode_append] at h
  have hd : d.toNat < 128 := by
    by_contra hd
    have hb := List.getLast?_eq_some_getLast (utf8EncodeChar_ne_nil d)
    have henc : encode [d] = String.utf8EncodeChar d := List.append_nil _
    have hlast := congrArg List.getLast? h
    rw [henc, List.getLast?_append, List.getLast?_concat, hb] at hlast
    have hle := le_of_mem_utf8EncodeChar (Nat.le_of_not_lt hd) (List.mem_of_getLast? hb)
    rw [Option.some.inj hlast, UInt8.toNat_ofNat'] at hle
    omega
  rw [encode_singleton hd] at h
  obtain ⟨hfront, hlast⟩ := List.append_inj' h rfl
  have hval := congrArg UInt8.toNat (List.cons.inj hlast).1
  rw [UInt8.toNat_ofNat', UInt8.toNat_ofNat'] at hval
  have hdc : d = c := by
    apply Char.ext
    apply UInt32.toNat.inj
    show d.toNat = c.toNat
    omega
  exact ⟨r, by rw [List.concat_eq_append, hdc], hfront⟩

/-- Bytes of ASCII at the end are the characters at the end. -/
theorem exists_append_of_encode {s t : List Char} {bytes : List UInt8}
    (ht : ∀ c ∈ t, c.toNat < 128) (h : encode s = bytes ++ encode t) :
    ∃ r, s = r ++ t ∧ encode r = bytes := by
  induction t using List.reverseRecOn generalizing s with
  | nil => exact ⟨s, (List.append_nil s).symm, h.trans (List.append_nil bytes)⟩
  | append_singleton t c ih =>
    have hc : c.toNat < 128 := ht c (by simp)
    rw [encode_append, encode_singleton hc, ← List.append_assoc] at h
    obtain ⟨s, rfl, hs⟩ := exists_concat_of_encode hc h
    obtain ⟨r, rfl, hr⟩ := ih (fun x hx => ht x (by simp [hx])) hs
    exact ⟨r, List.append_assoc .., hr⟩

end Provisioning.Utf8
