import Mathlib.Data.UInt
import Tether.Text.Numeral

/-!
The bytes of a text. They are those of its characters in a row (`toList_toUTF8`), every character
has some, and a byte below 128 is a character by itself: it stands in the bytes of a text just
where that character stands in the text (`mem_toUTF8_of_lt`, `mem_toUTF8_iff`).
-/

namespace Tether.Text

theorem byteArray_toList_loop (bs : ByteArray) (i : Nat) (acc : List UInt8) :
    ByteArray.toList.loop bs i acc = acc.reverse ++ bs.data.toList.drop i := by
  fun_induction ByteArray.toList.loop bs i acc with
  | case1 i acc h ih =>
    have hi : i < bs.data.toList.length := h
    have hget : bs.get! i = bs.data.toList[i] := getElem!_pos bs.data i h
    rw [ih, List.drop_eq_getElem_cons hi, hget, List.reverse_cons, List.append_assoc]
    rfl
  | case2 i acc h =>
    rw [List.drop_eq_nil_of_le (Nat.le_of_not_lt h), List.append_nil]

theorem byteArray_toList (bs : ByteArray) : bs.toList = bs.data.toList := by
  rw [ByteArray.toList, byteArray_toList_loop]
  rfl

/-- The bytes of a text are those of its characters. -/
theorem toList_toUTF8 (cs : List Char) :
    (String.ofList cs).toUTF8.toList = cs.flatMap String.utf8EncodeChar := by
  rw [byteArray_toList, String.toUTF8_eq_toByteArray, String.toByteArray_ofList, List.utf8Encode,
    List.data_toByteArray]

/-- The only text that is read from bytes is the one whose bytes they are. -/
theorem fromUTF8?_eq_some_iff {bytes : List UInt8} {s : String} :
    String.fromUTF8? ⟨bytes.toArray⟩ = some s ↔ bytes = s.toUTF8.toList := by
  rw [byteArray_toList, String.toUTF8_eq_toByteArray]
  unfold String.fromUTF8?
  constructor
  · intro h
    split at h
    · cases h
      rfl
    · cases h
  · rintro rfl
    exact dif_pos s.isValidUTF8

/-- A character below 128 is one byte. -/
theorem utf8EncodeChar_of_lt {c : Char} (h : c.toNat < 128) :
    String.utf8EncodeChar c = [c.toNat.toUInt8] := if_pos (Nat.le_of_lt_succ h)

/-- The bytes of any other are at least 128. -/
theorem utf8EncodeChar_of_ge {c : Char} (h : 128 ≤ c.toNat) {b : UInt8}
    (hb : b ∈ String.utf8EncodeChar c) : 128 ≤ b.toNat := by
  rw [String.utf8EncodeChar, if_neg (show ¬ c.val.toNat ≤ 127 from Nat.not_le_of_lt h)] at hb
  revert b
  split
  · simp only [List.mem_cons, List.not_mem_nil, or_false, forall_eq_or_imp, forall_eq,
      UInt8.toNat_ofNat']
    omega
  · split
    · simp only [List.mem_cons, List.not_mem_nil, or_false, forall_eq_or_imp, forall_eq,
        UInt8.toNat_ofNat']
      omega
    · simp only [List.mem_cons, List.not_mem_nil, or_false, forall_eq_or_imp, forall_eq,
        UInt8.toNat_ofNat']
      omega

theorem toNat_toUInt8 {n : Nat} (h : n < 128) : n.toUInt8.toNat = n := by
  rw [Nat.toUInt8_eq, UInt8.toNat_ofNat', Nat.mod_eq_of_lt (by omega)]

/-- A byte below 128 among those of a text is one of its characters. -/
theorem mem_toUTF8_of_lt {cs : List Char} {b : UInt8} (h : b.toNat < 128) :
    b ∈ (String.ofList cs).toUTF8.toList ↔ ∃ c ∈ cs, c.toNat < 128 ∧ b = c.toNat.toUInt8 := by
  rw [toList_toUTF8, List.mem_flatMap]
  refine exists_congr fun c => and_congr_right fun _ => ?_
  by_cases hc : c.toNat < 128
  · rw [utf8EncodeChar_of_lt hc, List.mem_singleton]
    exact (and_iff_right hc).symm
  · refine iff_of_false (fun hb => ?_) fun hb => hc hb.1
    exact Nat.not_le_of_lt h (utf8EncodeChar_of_ge (Nat.le_of_not_lt hc) hb)

theorem mem_toUTF8_iff {cs : List Char} {c : Char} (h : c.toNat < 128) :
    c.toNat.toUInt8 ∈ (String.ofList cs).toUTF8.toList ↔ c ∈ cs := by
  rw [mem_toUTF8_of_lt (by rwa [toNat_toUInt8 h])]
  constructor
  · rintro ⟨x, hx, hlt, hb⟩
    have hn := congrArg UInt8.toNat hb
    rw [toNat_toUInt8 h, toNat_toUInt8 hlt] at hn
    exact Char.toNat_inj.1 hn ▸ hx
  · intro hc
    exact ⟨c, hc, h, rfl⟩

end Tether.Text
