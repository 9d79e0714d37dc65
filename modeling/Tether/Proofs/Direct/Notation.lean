import Tether.Direct.Forward
import Tether.Proofs.Text.Numeral
import Tether.Proofs.Text.Trimming

/-!
How forwards are written. A text is a forward just when it is two numerals of at most 16 bits with
a colon between them and blanks around either (`Written`), and the ports are then their values. Any
other text is refused for the first fault in it, and a part is quoted with its blanks (`Refused`).
The text of every forward reads back, whatever blanks are put around its ports.
-/

namespace Tether.Direct.Forward

open Tether.Text

/-- The text is the two numbers as numerals, with a colon between them and blanks around them. -/
def Written (s : String) (listen overlay : Nat) : Prop :=
  ∃ b₁ front b₂ b₃ back b₄ : List Char,
    s.toList = b₁ ++ front ++ b₂ ++ ':' :: (b₃ ++ back ++ b₄) ∧
    (∀ c ∈ b₁ ++ b₂ ++ b₃ ++ b₄, isBlankChar c = true) ∧
    Denotes front listen ∧ Denotes back overlay

/-- Nothing but blanks stands around a numeral of a port. -/
def IsPort (part : List Char) (n : Nat) : Prop :=
  ∃ core, Framed part core ∧ Denotes core n ∧ n ≤ maxPort

/-- What stands between the blanks is no numeral of a port. -/
def IsNoPort (part : List Char) (fault : NumeralFault) : Prop :=
  ∃ core, Framed part core ∧ Faulty maxPort core fault

/-- Why a text is no forward, and the words for it. -/
inductive Refused (s : String) : Error → String → Prop
  | noColon (h : ':' ∉ s.toList) :
      Refused s (.noColon s) ("expected LISTEN:OVERLAY, got '" ++ s ++ "'")
  | front {front back : List Char} {fault : NumeralFault} (hs : s.toList = front ++ ':' :: back)
      (hcolon : ':' ∉ front) (hfront : IsNoPort front fault) :
      Refused s (.badPort (String.ofList front) fault)
        ("invalid port '" ++ String.ofList front ++ "': " ++ fault.message)
  | back {front back : List Char} {n : Nat} {fault : NumeralFault}
      (hs : s.toList = front ++ ':' :: back) (hcolon : ':' ∉ front) (hfront : IsPort front n)
      (hback : IsNoPort back fault) :
      Refused s (.badPort (String.ofList back) fault)
        ("invalid port '" ++ String.ofList back ++ "': " ++ fault.message)

variable {s : String} {cs front back part : List Char}

/-! ## The colon -/

theorem splitColon_append (h : ':' ∉ front) :
    splitColon (front ++ ':' :: back) = some (front, back) := by
  have hfront : ∀ c ∈ front, decide (c ≠ ':') = true := by
    intro c hc
    rw [decide_eq_true_eq]
    rintro rfl
    exact h hc
  unfold splitColon
  rw [List.dropWhile_append_of_pos hfront, List.takeWhile_append_of_pos hfront]
  simp

theorem splitColon_eq_none (h : ':' ∉ cs) : splitColon cs = none := by
  have hdrop : cs.dropWhile (· ≠ ':') = [] := by
    rw [List.dropWhile_eq_nil_iff]
    intro c hc
    rw [decide_eq_true_eq]
    rintro rfl
    exact h hc
  unfold splitColon
  rw [hdrop]

/-! ## The parts -/

/-- A numeral holds no blanks. -/
theorem ink_of_denotes {n : Nat} (h : Denotes cs n) : ∀ c ∈ cs, isBlankChar c = false := by
  obtain ⟨sign, digits, rfl, hsign, -, hdigits, -⟩ := h
  intro c hc
  obtain hc | hc := List.mem_append.1 hc
  · obtain rfl | rfl := hsign
    · cases hc
    · rw [List.mem_singleton.1 hc]
      rfl
  · exact isBlankChar_of_isAlphanum (by simp [Char.isAlphanum, hdigits c hc])

theorem framed_of_denotes {n : Nat} {before after : List Char} (h : Denotes cs n)
    (hbefore : ∀ c ∈ before, isBlankChar c = true) (hafter : ∀ c ∈ after, isBlankChar c = true) :
    Framed (before ++ cs ++ after) cs where
  around := ⟨before, after, rfl, hbefore, hafter⟩
  first c hc := ink_of_denotes h c (List.mem_of_mem_head? hc)
  last c hc := ink_of_denotes h c (List.mem_of_getLast? hc)

theorem isPort_iff {n : Nat} :
    IsPort part n ↔ readNumeral 10 maxPort (trimChars part) = .ok n := by
  rw [readNumeral_eq_ok_iff]
  constructor
  · rintro ⟨core, hcore, hn⟩
    rwa [hcore.trimChars_eq]
  · intro hn
    exact ⟨trimChars part, framed_trimChars part, hn⟩

theorem isNoPort_iff {fault : NumeralFault} :
    IsNoPort part fault ↔ readNumeral 10 maxPort (trimChars part) = .error fault := by
  rw [readNumeral_eq_error_iff]
  constructor
  · rintro ⟨core, hcore, hfault⟩
    rwa [hcore.trimChars_eq]
  · intro hfault
    exact ⟨trimChars part, framed_trimChars part, hfault⟩

theorem readPart_of_isPort {n : Nat} (h : IsPort part n) : readPart part = .ok n.toUInt16 := by
  unfold readPart
  rw [isPort_iff.1 h]

theorem readPart_of_isNoPort {fault : NumeralFault} (h : IsNoPort part fault) :
    readPart part = .error (.badPort (String.ofList part) fault) := by
  unfold readPart
  rw [isNoPort_iff.1 h]

/-- Every part is the one or the other. -/
theorem isPort_or_isNoPort (part : List Char) :
    (∃ n, IsPort part n) ∨ ∃ fault, IsNoPort part fault := by
  cases h : readNumeral 10 maxPort (trimChars part) with
  | ok n => exact .inl ⟨n, isPort_iff.2 h⟩
  | error fault => exact .inr ⟨fault, isNoPort_iff.2 h⟩

/-! ## The text -/

theorem toNat_toUInt16 {n : Nat} (h : n ≤ maxPort) : n.toUInt16.toNat = n := by
  rw [Nat.toUInt16_eq, UInt16.toNat_ofNat', Nat.mod_eq_of_lt]
  exact Nat.lt_succ_of_le h

/-- A text whose parts are ports is a forward of these. -/
theorem parse_of_isPort {m n : Nat} (hs : s.toList = front ++ ':' :: back) (hcolon : ':' ∉ front)
    (hfront : IsPort front m) (hback : IsPort back n) :
    parse s = .ok ⟨m.toUInt16, n.toUInt16⟩ := by
  unfold parse
  rw [hs, splitColon_append hcolon]
  simp only [readPart_of_isPort hfront, readPart_of_isPort hback]
  rfl

theorem parse_of_refused {e : Error} {words : String} (h : Refused s e words) :
    parse s = .error e ∧ e.message = words := by
  unfold parse
  cases h with
  | noColon h =>
    rw [splitColon_eq_none h]
    exact ⟨rfl, rfl⟩
  | front hs hcolon hfront =>
    rw [hs, splitColon_append hcolon]
    simp only [readPart_of_isNoPort hfront]
    exact ⟨rfl, rfl⟩
  | back hs hcolon hfront hback =>
    rw [hs, splitColon_append hcolon]
    simp only [readPart_of_isPort hfront, readPart_of_isNoPort hback]
    exact ⟨rfl, rfl⟩

/-- A text is a forward of two ports, or it is refused. -/
theorem isForward_or_refused (s : String) :
    (∃ front back m n, s.toList = front ++ ':' :: back ∧ ':' ∉ front ∧ IsPort front m ∧
      IsPort back n) ∨ ∃ e words, Refused s e words := by
  by_cases h : ':' ∈ s.toList
  · obtain ⟨front, back, hs, hcolon⟩ := List.eq_append_cons_of_mem h
    obtain ⟨m, hfront⟩ | ⟨fault, hfront⟩ := isPort_or_isNoPort front
    · obtain ⟨n, hback⟩ | ⟨fault, hback⟩ := isPort_or_isNoPort back
      · exact .inl ⟨front, back, m, n, hs, hcolon, hfront, hback⟩
      · exact .inr ⟨_, _, .back hs hcolon hfront hback⟩
    · exact .inr ⟨_, _, .front hs hcolon hfront⟩
  · exact .inr ⟨_, _, .noColon h⟩

theorem colon_not_mem_of_denotes {n : Nat} (h : Denotes cs n) : ':' ∉ cs := by
  obtain ⟨sign, digits, rfl, hsign, -, hdigits, -⟩ := h
  intro hc
  obtain hc | hc := List.mem_append.1 hc
  · obtain rfl | rfl := hsign
    · cases hc
    · cases List.mem_singleton.1 hc
  · cases hdigits ':' hc

theorem colon_not_mem_of_blank (h : ∀ c ∈ cs, isBlankChar c = true) : ':' ∉ cs := by
  intro hc
  cases h ':' hc

/-- The first colon is the one between the numerals. -/
theorem written_iff {m n : Nat} :
    Written s m n ∧ m ≤ maxPort ∧ n ≤ maxPort ↔
      ∃ front back, s.toList = front ++ ':' :: back ∧ ':' ∉ front ∧ IsPort front m ∧
        IsPort back n := by
  constructor
  · rintro ⟨⟨b₁, front, b₂, b₃, back, b₄, hs, hblank, hfront, hback⟩, hm, hn⟩
    simp only [List.forall_mem_append] at hblank
    obtain ⟨⟨⟨h₁, h₂⟩, h₃⟩, h₄⟩ := hblank
    refine ⟨_, _, hs, ?_, ⟨front, framed_of_denotes hfront h₁ h₂, hfront, hm⟩,
      ⟨back, framed_of_denotes hback h₃ h₄, hback, hn⟩⟩
    simp only [List.mem_append, not_or]
    exact ⟨⟨colon_not_mem_of_blank h₁, colon_not_mem_of_denotes hfront⟩, colon_not_mem_of_blank h₂⟩
  · rintro ⟨_, _, hs, -, ⟨front, ⟨⟨b₁, b₂, rfl, h₁, h₂⟩, -, -⟩, hfront, hm⟩,
      ⟨back, ⟨⟨b₃, b₄, rfl, h₃, h₄⟩, -, -⟩, hback, hn⟩⟩
    refine ⟨⟨b₁, front, b₂, b₃, back, b₄, hs, ?_, hfront, hback⟩, hm, hn⟩
    simp only [List.forall_mem_append]
    exact ⟨⟨⟨h₁, h₂⟩, h₃⟩, h₄⟩

theorem parse_of_written {m n : Nat} (h : Written s m n) (hm : m ≤ maxPort) (hn : n ≤ maxPort) :
    parse s = .ok ⟨m.toUInt16, n.toUInt16⟩ := by
  obtain ⟨front, back, hs, hcolon, hfront, hback⟩ := written_iff.1 ⟨h, hm, hn⟩
  exact parse_of_isPort hs hcolon hfront hback

theorem toNat_le_maxPort (p : UInt16) : p.toNat ≤ maxPort := Nat.le_of_lt_succ p.toNat_lt

theorem parse_eq_ok_iff {f : Forward} :
    parse s = .ok f ↔ Written s f.listen.toNat f.overlay.toNat := by
  constructor
  · intro hparse
    obtain ⟨front, back, m, n, hsplit⟩ | ⟨e, words, hrefused⟩ := isForward_or_refused s
    · obtain ⟨hwritten, hm, hn⟩ := written_iff.2 ⟨front, back, hsplit⟩
      rw [parse_of_written hwritten hm hn] at hparse
      cases hparse
      rwa [toNat_toUInt16 hm, toNat_toUInt16 hn]
    · rw [(parse_of_refused hrefused).1] at hparse
      cases hparse
  · intro hwritten
    rw [parse_of_written hwritten (toNat_le_maxPort _) (toNat_le_maxPort _)]
    simp

theorem parse_eq_error_iff {e : Error} {words : String} :
    parse s = .error e ∧ e.message = words ↔ Refused s e words := by
  constructor
  · rintro ⟨hparse, hwords⟩
    obtain ⟨front, back, m, n, hs, hcolon, hfront, hback⟩ | ⟨e', words', hrefused⟩ :=
      isForward_or_refused s
    · rw [parse_of_isPort hs hcolon hfront hback] at hparse
      cases hparse
    · obtain ⟨herror, hmessage⟩ := parse_of_refused hrefused
      rw [herror] at hparse
      cases hparse
      rwa [← hwords, hmessage]
  · exact parse_of_refused

/-- A forward is written as its two ports, in whatever way their numerals and the blanks around
them are chosen; what is not written so is refused, for the first fault in it. -/
theorem parse_grammar (s : String) :
    ((∃ f, parse s = .ok f) ↔ ∃ m n, Written s m n ∧ m ≤ 65535 ∧ n ≤ 65535) ∧
    (∀ f, parse s = .ok f ↔ Written s f.listen.toNat f.overlay.toNat) ∧
    (∀ e words, parse s = .error e ∧ e.message = words ↔ Refused s e words) ∧
    ∀ (f : Forward) (b₁ b₂ b₃ b₄ : String), isBlank (b₁ ++ b₂ ++ b₃ ++ b₄) = true →
      s = b₁ ++ toString f.listen.toNat ++ b₂ ++ ":" ++ b₃ ++ toString f.overlay.toNat ++ b₄ →
      parse s = .ok f := by
  refine ⟨?_, fun f => parse_eq_ok_iff, fun e words => parse_eq_error_iff, ?_⟩
  · constructor
    · rintro ⟨f, hf⟩
      exact ⟨_, _, parse_eq_ok_iff.1 hf, toNat_le_maxPort _, toNat_le_maxPort _⟩
    · rintro ⟨m, n, hwritten, hm, hn⟩
      exact ⟨_, parse_of_written hwritten hm hn⟩
  · rintro f b₁ b₂ b₃ b₄ hblank rfl
    refine parse_eq_ok_iff.2 ⟨b₁.toList, (toString f.listen.toNat).toList, b₂.toList, b₃.toList,
      (toString f.overlay.toNat).toList, b₄.toList, ?_, ?_, denotes_toString _, denotes_toString _⟩
    · simp [String.toList_append]
    · rw [isBlank, List.all_eq_true] at hblank
      simpa only [String.toList_append] using hblank

/-- Tabs, an ideographic space and line breaks around the ports. -/
theorem parse_grammar_spaced :
    parse "\t8443\u3000:\n 443\n" = .ok ⟨8443, 443⟩ :=
  (parse_grammar _).2.2.2 ⟨8443, 443⟩ "\t" "\u3000" "\n " "\n" (by decide) (by decide)

end Tether.Direct.Forward
