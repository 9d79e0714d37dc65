import Mathlib.Data.List.Basic
import Tether.Text.Numeral

/-!
Which texts are decimal numerals. A text is read with a value just when it is that value in digits,
behind a plus sign or none, and the value is within the limit (`readNumeral_eq_ok_iff`). Of any
other text the first character at fault is reported: all before it are digits with a value within
the limit, and it is no digit, or it takes the value past the limit (`readNumeral_eq_error_iff`).
-/

namespace Tether.Text

/-- The characters are a numeral of a value: digits, at least one, behind a plus sign or none. -/
def Denotes (cs : List Char) (n : Nat) : Prop :=
  ∃ sign digits, cs = sign ++ digits ∧ (sign = [] ∨ sign = ['+']) ∧ digits ≠ [] ∧
    (∀ c ∈ digits, c.isDigit = true) ∧ Nat.ofDigitChars 10 digits 0 = n

/-- What follows the plus sign that may stand in front. -/
def unsigned : List Char → List Char
  | '+' :: rest => rest
  | cs => cs

/-- Why characters are no numeral up to a limit. -/
inductive Faulty (limit : Nat) : List Char → NumeralFault → Prop
  | empty : Faulty limit [] .empty
  | sign : Faulty limit ['+'] .wrongDigit
  | wrongDigit {cs digits rest : List Char} {c : Char} (hcs : unsigned cs = digits ++ c :: rest)
      (hdigits : ∀ d ∈ digits, d.isDigit = true) (hvalue : Nat.ofDigitChars 10 digits 0 ≤ limit)
      (hc : c.isDigit = false) : Faulty limit cs .wrongDigit
  | tooLarge {cs digits rest : List Char} {c : Char} (hcs : unsigned cs = digits ++ c :: rest)
      (hdigits : ∀ d ∈ digits, d.isDigit = true) (hvalue : Nat.ofDigitChars 10 digits 0 ≤ limit)
      (hc : c.isDigit = true) (hover : limit < Nat.ofDigitChars 10 (digits ++ [c]) 0) :
      Faulty limit cs .tooLarge

variable {limit value n : Nat} {cs : List Char} {c : Char}

/-! ## Digits -/

theorem digitValue?_of_isDigit (h : c.isDigit = true) :
    digitValue? 10 c = some (c.toNat - '0'.toNat) := by
  have hle : c.val.toNat ≤ 57 := by
    simp only [Char.isDigit, Bool.and_eq_true, decide_eq_true_eq] at h
    exact UInt32.le_iff_toNat_le.1 h.2
  have hlt : c.toNat - '0'.toNat < 10 := by
    show c.val.toNat - 48 < 10
    omega
  unfold digitValue?
  rw [h, if_pos rfl, Option.filter_some, decide_eq_true hlt, if_pos rfl]

theorem digitValue?_of_not_isDigit (h : c.isDigit = false) : digitValue? 10 c = none := by
  have hletter (a : Nat) : ¬ a + 10 < 10 := by omega
  unfold digitValue?
  simp only [h, Bool.false_eq_true, if_false]
  split
  · simp [Option.filter, hletter]
  · split
    · simp [Option.filter, hletter]
    · rfl

theorem readDigits_of_not_isDigit (h : c.isDigit = false) :
    readDigits 10 limit value (c :: cs) = .error .wrongDigit := by
  rw [readDigits, digitValue?_of_not_isDigit h]

/-- A digit is read on top of the value before it, as long as that fits. -/
theorem readDigits_of_isDigit (h : c.isDigit = true) :
    readDigits 10 limit value (c :: cs) =
      if Nat.ofDigitChars 10 [c] value ≤ limit then
        readDigits 10 limit (Nat.ofDigitChars 10 [c] value) cs
      else .error .tooLarge := by
  rw [readDigits, digitValue?_of_isDigit h, Nat.ofDigitChars_cons, Nat.ofDigitChars_nil]

theorem ofDigitChars_cons_eq (c : Char) (cs : List Char) (value : Nat) :
    Nat.ofDigitChars 10 (c :: cs) value =
      Nat.ofDigitChars 10 cs (Nat.ofDigitChars 10 [c] value) :=
  Nat.ofDigitChars_append (l := [c]) value

/-- Digits only add to what was read before them. -/
theorem le_ofDigitChars (cs : List Char) (value : Nat) : value ≤ Nat.ofDigitChars 10 cs value := by
  induction cs generalizing value with
  | nil => exact Nat.le_refl value
  | cons c cs ih =>
    rw [Nat.ofDigitChars_cons]
    have := ih (10 * value + (c.toNat - '0'.toNat))
    omega

theorem readDigits_eq_ok_iff (hv : value ≤ limit) :
    readDigits 10 limit value cs = .ok n ↔
      (∀ c ∈ cs, c.isDigit = true) ∧ Nat.ofDigitChars 10 cs value = n ∧ n ≤ limit := by
  induction cs generalizing value with
  | nil =>
    simp only [readDigits, Nat.ofDigitChars_nil, Except.ok.injEq]
    constructor
    · rintro rfl
      exact ⟨by simp, rfl, hv⟩
    · rintro ⟨-, h, -⟩
      exact h
  | cons c cs ih =>
    cases hc : c.isDigit with
    | false => simp [readDigits_of_not_isDigit hc, hc]
    | true =>
      rw [readDigits_of_isDigit hc, ofDigitChars_cons_eq c cs]
      split
      · rename_i hle
        rw [ih hle]
        simp only [List.forall_mem_cons, hc, true_and]
      · rename_i hgt
        constructor
        · intro h
          cases h
        · rintro ⟨-, rfl, hle⟩
          have := le_ofDigitChars cs (Nat.ofDigitChars 10 [c] value)
          omega

/-- The characters begin with digits whose value stays within the limit, and then comes the one at
fault. -/
def Breaks (limit value : Nat) (cs : List Char) (fault : NumeralFault) : Prop :=
  ∃ digits c rest, cs = digits ++ c :: rest ∧ (∀ d ∈ digits, d.isDigit = true) ∧
    Nat.ofDigitChars 10 digits value ≤ limit ∧
    (c.isDigit = false ∧ fault = .wrongDigit ∨
      c.isDigit = true ∧ limit < Nat.ofDigitChars 10 (digits ++ [c]) value ∧ fault = .tooLarge)

variable {fault : NumeralFault}

/-- The first character is the fault, or it is a digit that fits and the fault is behind it. -/
theorem breaks_cons_iff (hv : value ≤ limit) :
    Breaks limit value (c :: cs) fault ↔
      (c.isDigit = false ∧ fault = .wrongDigit ∨
        c.isDigit = true ∧ limit < Nat.ofDigitChars 10 [c] value ∧ fault = .tooLarge) ∨
      c.isDigit = true ∧ Nat.ofDigitChars 10 [c] value ≤ limit ∧
        Breaks limit (Nat.ofDigitChars 10 [c] value) cs fault := by
  constructor
  · rintro ⟨digits, d, rest, hcs, hdigits, hvalue, hd⟩
    cases digits with
    | nil =>
      obtain ⟨rfl, rfl⟩ := List.cons.inj hcs
      exact .inl hd
    | cons x digits =>
      obtain ⟨rfl, rfl⟩ := List.cons.inj hcs
      rw [ofDigitChars_cons_eq] at hvalue
      rw [List.cons_append, ofDigitChars_cons_eq] at hd
      have hle := le_ofDigitChars digits (Nat.ofDigitChars 10 [c] value)
      obtain ⟨hc, hdigits⟩ := List.forall_mem_cons.1 hdigits
      exact .inr ⟨hc, by omega, digits, d, rest, rfl, hdigits, hvalue, hd⟩
  · rintro (hc | ⟨hc, -, digits, d, rest, rfl, hdigits, hvalue, hd⟩)
    · exact ⟨[], c, cs, rfl, by simp, hv, hc⟩
    · rw [← ofDigitChars_cons_eq] at hvalue hd
      exact ⟨c :: digits, d, rest, rfl, List.forall_mem_cons.2 ⟨hc, hdigits⟩, hvalue, hd⟩

theorem not_breaks_nil : ¬ Breaks limit value [] fault := by
  rintro ⟨digits, c, rest, h, -⟩
  cases List.append_eq_nil_iff.1 h.symm with
  | intro _ hc => cases hc

theorem readDigits_eq_error_iff (hv : value ≤ limit) :
    readDigits 10 limit value cs = .error fault ↔ Breaks limit value cs fault := by
  induction cs generalizing value with
  | nil => simp [readDigits, not_breaks_nil]
  | cons c cs ih =>
    rw [breaks_cons_iff hv]
    cases hc : c.isDigit with
    | false => simp [readDigits_of_not_isDigit hc, eq_comm]
    | true =>
      rw [readDigits_of_isDigit hc]
      split
      · rename_i hle
        simp [ih hle, hle, Nat.not_lt_of_le hle]
      · rename_i hgt
        simp [hgt, Nat.lt_of_not_le hgt, eq_comm]

/-! ## Numerals -/

theorem readNumeral_eq (hne : cs ≠ []) (hsign : cs ≠ ['+']) :
    readNumeral 10 limit cs = readDigits 10 limit 0 (unsigned cs) := by
  unfold readNumeral
  split
  · exact absurd rfl hne
  · exact absurd rfl hsign
  · rfl
  · rename_i hplus
    rw [unsigned]
    exact hplus

theorem unsigned_of_digits {digits : List Char} (h : ∀ c ∈ digits, c.isDigit = true) :
    unsigned digits = digits := by
  unfold unsigned
  split
  · cases h '+' List.mem_cons_self
  · rfl

theorem eq_unsigned (cs : List Char) : cs = unsigned cs ∨ cs = '+' :: unsigned cs := by
  unfold unsigned
  split
  · exact .inr rfl
  · exact .inl rfl

theorem denotes_iff :
    Denotes cs n ↔ unsigned cs ≠ [] ∧ (∀ c ∈ unsigned cs, c.isDigit = true) ∧
      Nat.ofDigitChars 10 (unsigned cs) 0 = n := by
  constructor
  · rintro ⟨sign, digits, rfl, rfl | rfl, hne, hdigits, hvalue⟩
    · rw [List.nil_append, unsigned_of_digits hdigits]
      exact ⟨hne, hdigits, hvalue⟩
    · exact ⟨hne, hdigits, hvalue⟩
  · rintro ⟨hne, hdigits, hvalue⟩
    obtain hcs | hcs := eq_unsigned cs
    · exact ⟨[], unsigned cs, hcs, .inl rfl, hne, hdigits, hvalue⟩
    · exact ⟨['+'], unsigned cs, hcs, .inr rfl, hne, hdigits, hvalue⟩

theorem readNumeral_eq_ok_iff :
    readNumeral 10 limit cs = .ok n ↔ Denotes cs n ∧ n ≤ limit := by
  rw [denotes_iff]
  by_cases hne : cs = []
  · subst hne
    simp [readNumeral, unsigned]
  by_cases hsign : cs = ['+']
  · subst hsign
    simp [readNumeral, unsigned]
  · rw [readNumeral_eq hne hsign, readDigits_eq_ok_iff (Nat.zero_le limit)]
    have hrest : unsigned cs ≠ [] := by
      unfold unsigned
      split
      · rintro rfl
        exact hsign rfl
      · exact hne
    simp [hrest, and_assoc]

theorem readNumeral_eq_error_iff :
    readNumeral 10 limit cs = .error fault ↔ Faulty limit cs fault := by
  have hfaulty : Faulty limit cs fault ↔
      cs = [] ∧ fault = .empty ∨ cs = ['+'] ∧ fault = .wrongDigit ∨
        Breaks limit 0 (unsigned cs) fault := by
    constructor
    · rintro (_ | _ | ⟨hcs, hdigits, hvalue, hc⟩ | ⟨hcs, hdigits, hvalue, hc, hover⟩)
      · exact .inl ⟨rfl, rfl⟩
      · exact .inr (.inl ⟨rfl, rfl⟩)
      · exact .inr (.inr ⟨_, _, _, hcs, hdigits, hvalue, .inl ⟨hc, rfl⟩⟩)
      · exact .inr (.inr ⟨_, _, _, hcs, hdigits, hvalue, .inr ⟨hc, hover, rfl⟩⟩)
    · rintro (⟨rfl, rfl⟩ | ⟨rfl, rfl⟩ |
        ⟨_, _, _, hcs, hdigits, hvalue, ⟨hc, rfl⟩ | ⟨hc, hover, rfl⟩⟩)
      · exact .empty
      · exact .sign
      · exact .wrongDigit hcs hdigits hvalue hc
      · exact .tooLarge hcs hdigits hvalue hc hover
  rw [hfaulty]
  by_cases hne : cs = []
  · subst hne
    simp [readNumeral, unsigned, not_breaks_nil, eq_comm]
  by_cases hsign : cs = ['+']
  · subst hsign
    simp [readNumeral, unsigned, not_breaks_nil, eq_comm]
  · rw [readNumeral_eq hne hsign, readDigits_eq_error_iff (Nat.zero_le limit)]
    simp [hne, hsign]

/-! ## Written numbers -/

theorem isDigit_of_mem_toString (h : c ∈ (toString n).toList) : c.isDigit = true := by
  rw [Nat.toString_eq_repr, Nat.repr_eq_ofList_toDigits, String.toList_ofList] at h
  exact Nat.isDigit_of_mem_toDigits (by decide) (by decide) h

theorem denotes_toString (n : Nat) : Denotes (toString n).toList n := by
  refine ⟨[], (toString n).toList, rfl, .inl rfl, ?_, fun c => isDigit_of_mem_toString, ?_⟩
  · rw [Nat.toString_eq_repr, Nat.repr_eq_ofList_toDigits, String.toList_ofList]
    exact Nat.toDigits_ne_nil
  · rw [Nat.toString_eq_repr, Nat.repr_eq_ofList_toDigits, String.toList_ofList]
    exact Nat.ofDigitChars_toDigits (by decide) (by decide)

/-- A number that was written is read again. -/
theorem readNumeral_toString (h : n ≤ limit) : readNumeral 10 limit (toString n).toList = .ok n :=
  readNumeral_eq_ok_iff.2 ⟨denotes_toString n, h⟩

end Tether.Text
