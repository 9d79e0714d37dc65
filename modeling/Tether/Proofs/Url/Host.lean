import Mathlib.Data.List.DropRight
import Tether.Proofs.Text.Bytes
import Tether.Url.Basic

/-!
Hosts and blanks. Blanks around a URL are ignored, but a blank behind a host that more follows is
a part of that host, and the URL is refused: a host, with its port, that is read does not end in a
blank (`readHost_last`). For a domain name this holds of the bytes that are left when percent signs
have been resolved, because a blank is one byte and neither a percent sign nor a digit.
-/

namespace Tether.Url

open Tether.Text

/-- Resolving percent signs leaves every byte that they and digits do not stand for. -/
theorem mem_percentDecode {b : UInt8} (hsign : b ≠ 0x25) (hdigit : hexValue? b = none)
    {bytes : List UInt8} (h : b ∈ bytes) : b ∈ percentDecode bytes := by
  fun_induction percentDecode bytes with
  | case1 x y rest m n hy hx ih =>
    have hbx : b ≠ x := fun he => by rw [← he, hdigit] at hx; cases hx
    have hby : b ≠ y := fun he => by rw [← he, hdigit] at hy; cases hy
    simp only [List.mem_cons, hsign, hbx, hby, false_or] at h
    exact List.mem_cons_of_mem _ (ih h)
  | case2 x y rest _ ih =>
    have hmem : b ∈ x :: y :: rest := (List.mem_cons.1 h).resolve_left hsign
    exact List.mem_cons_of_mem _ (ih hmem)
  | case3 x rest _ ih =>
    obtain rfl | h := List.mem_cons.1 h
    · exact List.mem_cons_self
    · exact List.mem_cons_of_mem _ (ih h)
  | case4 => exact absurd h List.not_mem_nil

theorem isOuter_toNat_le {c : Char} (h : isOuter c) : c.toNat ≤ 0x20 := by
  simpa [isOuter] using h

/-- What holds of the characters up to the space holds of a blank. -/
theorem isOuter_forall {P : Char → Prop} [DecidablePred P]
    (hall : ∀ n ≤ 0x20, P (Char.ofNat n)) {c : Char} (h : isOuter c) : P c := by
  have := hall _ (isOuter_toNat_le h)
  rwa [Char.ofNat_toNat] at this

theorem hexValue?_of_isOuter {c : Char} (h : isOuter c) : hexValue? c.toNat.toUInt8 = none :=
  isOuter_forall (P := fun c => hexValue? c.toNat.toUInt8 = none) (by decide) h

theorem digitValue?_of_isOuter {c : Char} (h : isOuter c) : digitValue? 10 c = none :=
  isOuter_forall (P := fun c => digitValue? 10 c = none) (by decide) h

theorem foldChar_of_isOuter {c : Char} (h : isOuter c) : foldChar c = c :=
  isOuter_forall (P := fun c => foldChar c = c) (by decide) h

theorem isForbidden_of_isOuter {c : Char} (h : isOuter c) : isForbidden c = true := by
  simp [isForbidden, isOuter_toNat_le h]

/-- No domain name with a blank among its bytes is read. -/
def DomainReader.RefusesBlanks (read : DomainReader) : Prop :=
  ∀ bytes domain, read bytes = .ok domain → ∀ c, isOuter c → c.toNat.toUInt8 ∉ bytes

theorem refusesBlanks_readDomain : DomainReader.RefusesBlanks readDomain := by
  intro bytes domain h c hc hmem
  have hn := isOuter_toNat_le hc
  unfold readDomain at h
  split at h
  · cases h
  · rename_i s hs
    have hbytes : (String.ofList s.toList).toUTF8.toList = bytes := by
      unfold String.fromUTF8? at hs
      split at hs
      · rw [String.ofList_toList, ← Option.some.inj hs, byteArray_toList]
        rfl
      · cases hs
    have hmem' : c ∈ s.toList := by
      rw [← mem_toUTF8_iff (by omega), hbytes]
      exact hmem
    have hforbidden :
        ((s.toList.filter fun c => !isDropped c.toNat).map foldChar).any isForbidden := by
      refine List.any_eq_true.2 ⟨c, List.mem_map.2 ⟨c, List.mem_filter.2 ⟨hmem', ?_⟩, ?_⟩, ?_⟩
      · exact isOuter_forall (P := fun c => !isDropped c.toNat) (by decide) hc
      · exact foldChar_of_isOuter hc
      · exact isForbidden_of_isOuter hc
    simp only [hforbidden, if_true] at h
    cases h

/-- A host does not end in a blank. -/
theorem readHost_last {read : DomainReader} (hread : read.RefusesBlanks) {cs : List Char}
    {host : Host} (h : readHost read cs = .ok host) {c : Char} (hlast : cs.getLast? = some c) :
    isOuter c = false := by
  rw [Bool.eq_false_iff]
  intro hc
  unfold readHost at h
  split at h
  · rename_i rest
    unfold readBracketed at h
    split at h
    · rename_i x hl _
      cases rest with
      | nil => cases hl
      | cons d rest =>
        rw [List.getLast?_cons_cons, hl] at hlast
        cases hlast
        revert hc
        decide
    · cases h
  · cases hd : read (percentDecode (String.ofList cs).toUTF8.toList) with
    | error fault =>
      rw [hd] at h
      cases h
    | ok domain =>
      have hn := isOuter_toNat_le hc
      have hsign := isOuter_forall (P := fun c => c.toNat.toUInt8 ≠ 0x25) (by decide) hc
      have hmem : c.toNat.toUInt8 ∈ (String.ofList cs).toUTF8.toList :=
        (mem_toUTF8_iff (by omega)).2 (List.mem_of_getLast? hlast)
      exact hread _ _ hd c hc (mem_percentDecode hsign (hexValue?_of_isOuter hc) hmem)

theorem readDigits_isSome {base limit value n : Nat} {cs : List Char}
    (h : readDigits base limit value cs = .ok n) {c : Char} (hc : c ∈ cs) :
    (digitValue? base c).isSome := by
  induction cs generalizing value with
  | nil => exact absurd hc List.not_mem_nil
  | cons d cs ih =>
    rw [readDigits] at h
    split at h
    · cases h
    · rename_i v hv
      split at h
      · obtain rfl | hc := List.mem_cons.1 hc
        · rw [hv]
          rfl
        · exact ih h hc
      · cases h

/-- Neither does a port. -/
theorem readPortDigits_last {scheme : String} {cs : List Char} {port : Option UInt16}
    (h : readPortDigits scheme cs = .ok port) {c : Char} (hlast : cs.getLast? = some c) :
    isOuter c = false := by
  have hmem := List.mem_of_getLast? hlast
  unfold readPortDigits at h
  split at h
  · rename_i he
    rw [List.isEmpty_iff.1 he] at hmem
    exact absurd hmem List.not_mem_nil
  · split at h
    · cases h
    · rename_i n hn
      rw [Bool.eq_false_iff]
      intro hc
      have hdigit := readDigits_isSome hn hmem
      rw [digitValue?_of_isOuter hc] at hdigit
      cases hdigit

theorem splitPort_eq (bracketed : Bool) (cs : List Char) :
    cs = (splitPort bracketed cs).1 ++ ((splitPort bracketed cs).2.map (':' :: ·)).getD [] := by
  induction cs generalizing bracketed with
  | nil => rfl
  | cons c cs ih =>
    rw [splitPort]
    split
    · rename_i h
      rw [h.1]
      rfl
    · exact congrArg (c :: ·) (ih _)

theorem splitUser_suffix {cs user place : List Char} (h : splitUser cs = some (user, place)) :
    place <:+ cs := by
  unfold splitUser at h
  dsimp only at h
  split at h
  · cases h
  · cases h
    exact List.rtakeWhile_suffix _ cs

end Tether.Url
