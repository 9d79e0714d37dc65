import Mathlib.Data.List.DropRight
import Tether.Text.Blank

/-!
What trimming leaves. It takes blanks off both ends, all of them, and nothing else: the rest is the
one part of the text that has only blanks around it and neither begins nor ends with a blank
(`trimChars_eq_iff`).
-/

namespace Tether.Text

/-- Only blanks stand around the core, which neither begins nor ends with a blank. -/
structure Framed (cs core : List Char) : Prop where
  around : ∃ before after, cs = before ++ core ++ after ∧
    (∀ c ∈ before, isBlankChar c = true) ∧ ∀ c ∈ after, isBlankChar c = true
  first : ∀ c ∈ core.head?, isBlankChar c = false
  last : ∀ c ∈ core.getLast?, isBlankChar c = false

theorem isBlankChar_of_isAlphanum {c : Char} (h : c.isAlphanum = true) : isBlankChar c = false := by
  have hlow : ∀ n < 123, (Char.ofNat n).isAlphanum = true → isBlankChar (Char.ofNat n) = false := by
    decide
  have hlt : c.toNat < 123 := by
    have hcases : ((c.isUpper || c.isLower) || c.isDigit) = true := h
    rw [Bool.or_eq_true, Bool.or_eq_true] at hcases
    obtain (h | h) | h := hcases
    · have hz : c.val ≤ 'Z'.val := (of_decide_eq_true h).2
      exact Nat.lt_of_le_of_lt hz (by decide)
    · have hz : c.val ≤ 'z'.val := of_decide_eq_true ((Bool.and_eq_true _ _).mp h).2
      exact Nat.lt_of_le_of_lt hz (by decide)
    · have hz : c.val ≤ '9'.val := of_decide_eq_true ((Bool.and_eq_true _ _).mp h).2
      exact Nat.lt_of_le_of_lt hz (by decide)
  have := hlow _ hlt
  rw [Char.ofNat_toNat] at this
  exact this h

theorem trimChars_eq (cs : List Char) :
    trimChars cs = (cs.dropWhile isBlankChar).rdropWhile isBlankChar := rfl

/-- What does not begin with a blank keeps its front. -/
theorem dropWhile_eq_self_of_head {cs : List Char} (h : ∀ c ∈ cs.head?, isBlankChar c = false) :
    cs.dropWhile isBlankChar = cs := by
  cases cs with
  | nil => rfl
  | cons c cs => exact List.dropWhile_cons_of_neg (by simp [h c rfl])

theorem rdropWhile_eq_self_of_getLast {cs : List Char}
    (h : ∀ c ∈ cs.getLast?, isBlankChar c = false) : cs.rdropWhile isBlankChar = cs := by
  have hrev : cs.reverse.dropWhile isBlankChar = cs.reverse := by
    apply dropWhile_eq_self_of_head
    rwa [List.head?_reverse]
  rw [List.rdropWhile, hrev, List.reverse_reverse]

theorem head_dropWhile (cs : List Char) :
    ∀ c ∈ (cs.dropWhile isBlankChar).head?, isBlankChar c = false := by
  intro c hc
  have h := List.head?_dropWhile_not isBlankChar cs
  rw [Option.mem_def.1 hc] at h
  exact h

theorem framed_trimChars (cs : List Char) : Framed cs (trimChars cs) := by
  rw [trimChars_eq]
  have hfront := cs.takeWhile_append_dropWhile (p := isBlankChar)
  have hfirst := head_dropWhile cs
  generalize hrest : cs.dropWhile isBlankChar = rest at hfront hfirst
  have hback := rest.rdropWhile_append_rtakeWhile (p := isBlankChar)
  refine ⟨⟨cs.takeWhile isBlankChar, rest.rtakeWhile isBlankChar, ?_, ?_, ?_⟩, ?_, ?_⟩
  · rw [List.append_assoc, hback, hfront]
  · intro c hc
    exact List.mem_takeWhile_imp hc
  · intro c hc
    exact List.mem_rtakeWhile_imp hc
  · intro c hc
    apply hfirst
    rw [← hback, List.head?_append, Option.mem_def.1 hc]
    rfl
  · rw [List.rdropWhile, List.getLast?_reverse]
    exact head_dropWhile _

theorem Framed.trimChars_eq {cs core : List Char} (h : Framed cs core) : trimChars cs = core := by
  obtain ⟨⟨before, after, rfl, hbefore, hafter⟩, hfirst, hlast⟩ := h
  rw [Text.trimChars_eq, List.append_assoc, List.dropWhile_append_of_pos hbefore]
  cases core with
  | nil =>
    rw [List.nil_append, List.dropWhile_eq_nil_iff.2 hafter, List.rdropWhile_nil]
  | cons c core =>
    replace hfirst : ∀ d ∈ (c :: core ++ after).head?, isBlankChar d = false := hfirst
    have hback : (c :: core ++ after).rdropWhile isBlankChar =
        (c :: core).rdropWhile isBlankChar := by
      rw [List.rdropWhile, List.reverse_append, List.dropWhile_append_of_pos]
      · rfl
      · intro d hd
        exact hafter d (List.mem_reverse.1 hd)
    rw [dropWhile_eq_self_of_head hfirst, hback, rdropWhile_eq_self_of_getLast hlast]

theorem trimChars_eq_iff {cs core : List Char} : trimChars cs = core ↔ Framed cs core := by
  constructor
  · rintro rfl
    exact framed_trimChars cs
  · exact Framed.trimChars_eq

end Tether.Text
