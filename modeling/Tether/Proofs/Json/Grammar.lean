import Mathlib.Data.List.DropRight
import Tether.Json.Value
import Tether.Proofs.Steps

/-!
The grammar of JSON. `Numeral`, `Quoted` and `Spells` say how numbers, strings and values are
spelled, and `IsText` how a whole text is; none of them looks at a reader. For the tokens the reader
is held against it here: what it passes over spells the token that it read, and every spelling is
read, whatever follows it (`skipNumber_eq_ok`, `skipNumber_append`, `readString_eq_ok_iff`). What
follows a number must not carry it on.
-/

namespace Tether.Json

/-! ## Spellings -/

/-- Nothing but the characters that may stand between tokens. -/
def Space (cs : List Char) : Prop := ∀ c ∈ cs, isSpace c = true

/-- At least one digit, and nothing else. -/
def Digits (cs : List Char) : Prop := cs ≠ [] ∧ ∀ c ∈ cs, c.isDigit = true

/-- The whole part of a number has no zero in front. -/
inductive Whole : List Char → Prop
  | zero : Whole ['0']
  | digits {c : Char} {cs : List Char} : c ≠ '0' → Digits (c :: cs) → Whole (c :: cs)

inductive Fraction : List Char → Prop
  | none : Fraction []
  | digits {cs : List Char} : Digits cs → Fraction ('.' :: cs)

inductive Exponent : List Char → Prop
  | none : Exponent []
  | digits {e : Char} {sign cs : List Char} : e = 'e' ∨ e = 'E' →
      sign = [] ∨ sign = ['+'] ∨ sign = ['-'] → Digits cs → Exponent (e :: (sign ++ cs))

/-- How a number is spelled. -/
inductive Numeral : List Char → Prop
  | positive {whole fraction exponent : List Char} : Whole whole → Fraction fraction →
      Exponent exponent → Numeral (whole ++ fraction ++ exponent)
  | negative {whole fraction exponent : List Char} : Whole whole → Fraction fraction →
      Exponent exponent → Numeral ('-' :: (whole ++ fraction ++ exponent))

/-- Four hexadecimal digits of a number. -/
inductive Hex4 : Nat → List Char → Prop
  | digits {a b c d : Char} {i j k l : Nat} : Text.digitValue? 16 a = some i →
      Text.digitValue? 16 b = some j → Text.digitValue? 16 c = some k →
      Text.digitValue? 16 d = some l → Hex4 (i * 4096 + j * 256 + k * 16 + l) [a, b, c, d]

/-- How the units of a string are spelled between its quotes. -/
inductive Units : List Part → List Char → Prop
  | nil : Units [] []
  | plain {c : Char} {parts : List Part} {cs : List Char} : 0x20 ≤ c.toNat → c ≠ '"' → c ≠ '\\' →
      Units parts cs → Units (.char c :: parts) (c :: cs)
  | short {letter c : Char} {parts : List Part} {cs : List Char} : shortEscape? letter = some c →
      Units parts cs → Units (.char c :: parts) ('\\' :: letter :: cs)
  | code {n : Nat} {digits : List Char} {parts : List Part} {cs : List Char} : Hex4 n digits →
      Units parts cs → Units (.ofNat n :: parts) ('\\' :: 'u' :: (digits ++ cs))

/-- How a string is spelled, its quotes included. -/
inductive Quoted : Option String → List Char → Prop
  | units {parts : List Part} {cs : List Char} : Units parts cs →
      Quoted ((joinParts parts).map String.ofList) ('"' :: (cs ++ ['"']))

/-- What is spelled: a value, or what stands between the brackets of an array or object. -/
inductive Phrase
  | value (v : Value)
  | items (vs : List Value)
  | members (ms : List (Option String × Value))

/-- How values are spelled, and items and members, of which there is at least one. -/
inductive Spells : Phrase → List Char → Prop
  | null : Spells (.value .null) "null".toList
  | yes : Spells (.value (.bool true)) "true".toList
  | no : Spells (.value (.bool false)) "false".toList
  | number {cs : List Char} : Numeral cs → Spells (.value .number) cs
  | string {text : Option String} {cs : List Char} : Quoted text cs →
      Spells (.value (.string text)) cs
  | noItems {a : List Char} : Space a → Spells (.value (.array [])) ('[' :: (a ++ [']']))
  | array {vs : List Value} {cs : List Char} : Spells (.items vs) cs →
      Spells (.value (.array vs)) ('[' :: (cs ++ [']']))
  | noMembers {a : List Char} : Space a →
      Spells (.value (.object [])) ('\x7b' :: (a ++ ['\x7d']))
  | object {ms : List (Option String × Value)} {cs : List Char} : Spells (.members ms) cs →
      Spells (.value (.object ms)) ('\x7b' :: (cs ++ ['\x7d']))
  | item {v : Value} {a cs b : List Char} : Space a → Spells (.value v) cs → Space b →
      Spells (.items [v]) (a ++ cs ++ b)
  | items {v : Value} {vs : List Value} {a cs b rest : List Char} : Space a →
      Spells (.value v) cs → Space b → Spells (.items vs) rest →
      Spells (.items (v :: vs)) (a ++ cs ++ b ++ ',' :: rest)
  | member {name : Option String} {v : Value} {a ns b c cs d : List Char} : Space a →
      Quoted name ns → Space b → Space c → Spells (.value v) cs → Space d →
      Spells (.members [(name, v)]) (a ++ ns ++ b ++ ':' :: (c ++ cs ++ d))
  | members {name : Option String} {v : Value} {ms : List (Option String × Value)}
      {a ns b c cs d rest : List Char} : Space a → Quoted name ns → Space b → Space c →
      Spells (.value v) cs → Space d → Spells (.members ms) rest →
      Spells (.members ((name, v) :: ms)) (a ++ ns ++ b ++ ':' :: (c ++ cs ++ d) ++ ',' :: rest)

/-- A whole text spells one value, with space around it. -/
def IsText (v : Value) (cs : List Char) : Prop :=
  ∃ a body b, cs = a ++ body ++ b ∧ Space a ∧ Spells (.value v) body ∧ Space b

/-! ## Space -/

theorem space_nil : Space [] := nofun

theorem skipSpace_eq_nil_iff {cs : List Char} : skipSpace cs = [] ↔ Space cs :=
  List.dropWhile_eq_nil_iff

/-- What is passed over is space. -/
theorem exists_space (cs : List Char) : ∃ a, Space a ∧ cs = a ++ skipSpace cs :=
  ⟨cs.takeWhile isSpace, fun _ hc => List.mem_takeWhile_imp hc,
    (List.takeWhile_append_dropWhile (p := isSpace)).symm⟩

theorem skipSpace_append {a cs : List Char} (ha : Space a) : skipSpace (a ++ cs) = skipSpace cs :=
  List.dropWhile_append_of_pos ha

theorem skipSpace_cons {c : Char} (h : isSpace c = false) (cs : List Char) :
    skipSpace (c :: cs) = c :: cs :=
  List.dropWhile_cons_of_neg (by rw [h]; exact Bool.false_ne_true)

/-! ## Numbers -/

/-- What stands here does not carry a number on. -/
def Ends (rest : List Char) : Prop :=
  ∀ c ∈ rest.head?, c.isDigit = false ∧ c ≠ '.' ∧ c ≠ 'e' ∧ c ≠ 'E'

theorem skipDigits_eq_ok {cs rest : List Char} (h : skipDigits cs = .ok rest) :
    ∃ ds, Digits ds ∧ cs = ds ++ rest := by
  unfold skipDigits at h
  split at h
  · rename_i c cs
    split at h
    · rename_i hc
      cases h
      refine ⟨(c :: cs).takeWhile Char.isDigit, ⟨?_, fun _ hd => List.mem_takeWhile_imp hd⟩,
        (List.takeWhile_append_dropWhile (p := Char.isDigit)).symm⟩
      rw [List.takeWhile_cons_of_pos hc]
      exact List.cons_ne_nil _ _
    · cases h
  · cases h

theorem skipDigits_append {ds rest : List Char} (hd : Digits ds)
    (hr : ∀ c ∈ rest.head?, c.isDigit = false) : skipDigits (ds ++ rest) = .ok rest := by
  obtain ⟨hne, hall⟩ := hd
  have hdrop : (ds ++ rest).dropWhile Char.isDigit = rest := by
    rw [List.dropWhile_append_of_pos hall]
    cases rest with
    | nil => rfl
    | cons c rest => exact List.dropWhile_cons_of_neg (by simp [hr c rfl])
  cases ds with
  | nil => exact absurd rfl hne
  | cons d ds =>
    rw [List.cons_append] at hdrop ⊢
    unfold skipDigits
    rw [hdrop]
    exact if_pos (hall d List.mem_cons_self)

theorem skipWhole_eq_ok {cs rest : List Char} (h : skipWhole cs = .ok rest) :
    ∃ ds, Whole ds ∧ cs = ds ++ rest := by
  unfold skipWhole at h
  split at h
  · split at h
    · cases h
    · cases h
      exact ⟨['0'], .zero, rfl⟩
  · rename_i hzero
    obtain ⟨ds, hd, rfl⟩ := skipDigits_eq_ok h
    cases ds with
    | nil => exact absurd rfl hd.1
    | cons d ds => exact ⟨d :: ds, .digits (fun he => hzero (ds ++ rest) (by rw [he]; rfl)) hd, rfl⟩

theorem skipWhole_append {ds rest : List Char} (hd : Whole ds)
    (hr : ∀ c ∈ rest.head?, c.isDigit = false) : skipWhole (ds ++ rest) = .ok rest := by
  cases hd with
  | zero =>
    have hnone : rest.head?.any Char.isDigit = false := by
      cases rest with
      | nil => rfl
      | cons c rest => exact hr c rfl
    show (if rest.head?.any Char.isDigit then _ else _) = _
    rw [hnone]
    rfl
  | @digits c cs hne hd =>
    have hwhole : skipWhole (c :: cs ++ rest) = skipDigits (c :: cs ++ rest) := by
      unfold skipWhole
      split
      · rename_i he
        exact absurd (List.cons.inj he).1 hne
      · rfl
    rw [hwhole]
    exact skipDigits_append hd hr

theorem skipFraction_eq_ok {cs rest : List Char} (h : skipFraction cs = .ok rest) :
    ∃ ds, Fraction ds ∧ cs = ds ++ rest := by
  unfold skipFraction at h
  split at h
  · obtain ⟨ds, hd, rfl⟩ := skipDigits_eq_ok h
    exact ⟨'.' :: ds, .digits hd, rfl⟩
  · cases h
    exact ⟨[], .none, rfl⟩

theorem skipFraction_append {ds rest : List Char} (hd : Fraction ds)
    (hr : ∀ c ∈ rest.head?, c.isDigit = false ∧ c ≠ '.') :
    skipFraction (ds ++ rest) = .ok rest := by
  cases hd with
  | none =>
    rw [List.nil_append]
    unfold skipFraction
    split
    · exact absurd rfl (hr '.' rfl).2
    · rfl
  | digits hd => exact skipDigits_append hd fun c hc => (hr c hc).1

theorem skipExponent_eq_ok {cs rest : List Char} (h : skipExponent cs = .ok rest) :
    ∃ ds, Exponent ds ∧ cs = ds ++ rest := by
  unfold skipExponent at h
  split at h
  · rename_i e tail
    split at h
    · rename_i he
      split at h
      · obtain ⟨ds, hd, rfl⟩ := skipDigits_eq_ok h
        exact ⟨e :: (['+'] ++ ds), .digits he (.inr (.inl rfl)) hd, rfl⟩
      · obtain ⟨ds, hd, rfl⟩ := skipDigits_eq_ok h
        exact ⟨e :: (['-'] ++ ds), .digits he (.inr (.inr rfl)) hd, rfl⟩
      · obtain ⟨ds, hd, rfl⟩ := skipDigits_eq_ok h
        exact ⟨e :: ([] ++ ds), .digits he (.inl rfl) hd, rfl⟩
    · cases h
      exact ⟨[], .none, rfl⟩
  · cases h
    exact ⟨[], .none, rfl⟩

theorem skipExponent_append {ds rest : List Char} (hd : Exponent ds) (hr : Ends rest) :
    skipExponent (ds ++ rest) = .ok rest := by
  have hdigit : ∀ c ∈ rest.head?, c.isDigit = false := fun c hc => (hr c hc).1
  cases hd with
  | none =>
    rw [List.nil_append]
    unfold skipExponent
    split
    · rename_i e tail
      obtain ⟨-, -, hlow, hup⟩ := hr e rfl
      exact if_neg (not_or.2 ⟨hlow, hup⟩)
    · rfl
  | @digits e sign cs he hsign hd =>
    rw [List.cons_append, List.append_assoc]
    unfold skipExponent
    dsimp only
    rw [if_pos he]
    obtain rfl | rfl | rfl := hsign
    · -- a digit is no sign
      obtain ⟨hne, hall⟩ := hd
      rw [List.nil_append]
      split
      · rename_i hplus
        cases cs with
        | nil => exact absurd rfl hne
        | cons d ds =>
          have := hall d List.mem_cons_self
          rw [(List.cons.inj hplus).1] at this
          cases this
      · rename_i hminus
        cases cs with
        | nil => exact absurd rfl hne
        | cons d ds =>
          have := hall d List.mem_cons_self
          rw [(List.cons.inj hminus).1] at this
          cases this
      · exact skipDigits_append ⟨hne, hall⟩ hdigit
    · exact skipDigits_append hd hdigit
    · exact skipDigits_append hd hdigit

theorem skipNumber_eq_ok {cs rest : List Char} (h : skipNumber cs = .ok rest) :
    ∃ ds, Numeral ds ∧ cs = ds ++ rest := by
  have hunsigned : ∀ {cs : List Char},
      (skipWhole cs >>= fun cs => skipFraction cs >>= skipExponent) = .ok rest →
        ∃ w f e, Whole w ∧ Fraction f ∧ Exponent e ∧ cs = w ++ f ++ e ++ rest := by
    intro cs h
    obtain ⟨behind, hw, h⟩ := bind_eq_ok_iff.1 h
    obtain ⟨last, hf, he⟩ := bind_eq_ok_iff.1 h
    obtain ⟨w, hwhole, rfl⟩ := skipWhole_eq_ok hw
    obtain ⟨f, hfraction, rfl⟩ := skipFraction_eq_ok hf
    obtain ⟨e, hexponent, rfl⟩ := skipExponent_eq_ok he
    exact ⟨w, f, e, hwhole, hfraction, hexponent, by simp⟩
  unfold skipNumber at h
  dsimp only at h
  split at h
  · obtain ⟨w, f, e, hw, hf, he, rfl⟩ := hunsigned h
    exact ⟨_, .negative hw hf he, rfl⟩
  · obtain ⟨w, f, e, hw, hf, he, rfl⟩ := hunsigned h
    exact ⟨_, .positive hw hf he, rfl⟩

theorem Fraction.head_not_digit {f rest : List Char} (hf : Fraction f)
    (hr : ∀ c ∈ rest.head?, c.isDigit = false) : ∀ c ∈ (f ++ rest).head?, c.isDigit = false := by
  cases hf with
  | none => exact hr
  | digits _ =>
    intro c hc
    cases hc
    rfl

theorem Exponent.head_no_digit {e rest : List Char} (he : Exponent e) (hr : Ends rest) :
    ∀ c ∈ (e ++ rest).head?, c.isDigit = false ∧ c ≠ '.' := by
  cases he with
  | none => exact fun c hc => ⟨(hr c hc).1, (hr c hc).2.1⟩
  | digits he _ _ =>
    intro c hc
    cases hc
    obtain rfl | rfl := he
    · decide
    · decide

theorem skipNumber_append {ds rest : List Char} (hd : Numeral ds) (hr : Ends rest) :
    skipNumber (ds ++ rest) = .ok rest := by
  have hunsigned : ∀ {w f e : List Char}, Whole w → Fraction f → Exponent e →
      (skipWhole (w ++ f ++ e ++ rest) >>= fun cs => skipFraction cs >>= skipExponent) =
        .ok rest := by
    intro w f e hw hf he
    have hhead := he.head_no_digit hr
    rw [List.append_assoc, List.append_assoc,
      skipWhole_append hw (hf.head_not_digit fun c hc => (hhead c hc).1)]
    show skipFraction (f ++ (e ++ rest)) >>= skipExponent = _
    rw [skipFraction_append hf hhead]
    exact skipExponent_append he hr
  cases hd with
  | @positive w f e hw hf he =>
    have hsign : ∀ tail, w ++ f ++ e ++ rest ≠ '-' :: tail := by
      intro tail hminus
      cases hw with
      | zero => cases hminus
      | digits _ hd =>
        have := hd.2 _ List.mem_cons_self
        rw [(List.cons.inj hminus).1] at this
        cases this
    unfold skipNumber
    dsimp only
    split
    · rename_i hminus
      exact absurd hminus (hsign _)
    · exact hunsigned hw hf he
  | negative hw hf he => exact hunsigned hw hf he

/-! ## Strings -/

theorem readHex4_eq_some_iff {cs rest : List Char} {n : Nat} :
    readHex4 cs = some (n, rest) ↔ ∃ ds, Hex4 n ds ∧ cs = ds ++ rest := by
  constructor
  · intro h
    unfold readHex4 at h
    split at h
    · rename_i a b c d tail
      obtain ⟨i, ha, h⟩ := Option.bind_eq_some_iff.1 h
      obtain ⟨j, hb, h⟩ := Option.bind_eq_some_iff.1 h
      obtain ⟨k, hc, h⟩ := Option.bind_eq_some_iff.1 h
      obtain ⟨l, hd, h⟩ := Option.bind_eq_some_iff.1 h
      cases h
      exact ⟨[a, b, c, d], .digits ha hb hc hd, rfl⟩
    · cases h
  · rintro ⟨ds, ⟨ha, hb, hc, hd⟩, rfl⟩
    simp [readHex4, ha, hb, hc, hd]

/-- One thing was read, and more of its kind behind it. -/
theorem cons_eq_ok_iff {α : Type} {x : Except Fault (List α × List Char)} {a : α} {as : List α}
    {rest : List Char} :
    (x >>= fun read => Except.ok (a :: read.1, read.2)) = .ok (as, rest) ↔
      ∃ more, x = .ok (more, rest) ∧ as = a :: more := by
  rw [bind_eq_ok_iff]
  constructor
  · rintro ⟨⟨more, rest'⟩, hx, h⟩
    cases h
    exact ⟨more, hx, rfl⟩
  · rintro ⟨more, hx, rfl⟩
    exact ⟨(more, rest), hx, rfl⟩

theorem readParts_eq_ok {fuel : Nat} {cs rest : List Char} {parts : List Part}
    (h : readParts fuel cs = .ok (parts, rest)) :
    ∃ body, Units parts body ∧ cs = body ++ '"' :: rest := by
  induction fuel generalizing cs parts with
  | zero => cases h
  | succ fuel ih =>
    unfold readParts at h
    split at h
    · cases h
    · cases h
    · cases h
      exact ⟨[], .nil, rfl⟩
    · cases h
    · rename_i he
      cases he
      split at h
      · cases h
      · rename_i n behind hcode
        obtain ⟨ds, hds, rfl⟩ := readHex4_eq_some_iff.1 hcode
        obtain ⟨more, hmore, rfl⟩ := cons_eq_ok_iff.1 h
        obtain ⟨body, hbody, rfl⟩ := ih hmore
        exact ⟨_, .code hds hbody, by simp⟩
    · rename_i he
      cases he
      split at h
      · cases h
      · rename_i c hshort
        obtain ⟨more, hmore, rfl⟩ := cons_eq_ok_iff.1 h
        obtain ⟨body, hbody, rfl⟩ := ih hmore
        exact ⟨_, .short hshort hbody, rfl⟩
    · rename_i c tail hquote hlast hcode hshort he
      cases he
      split at h
      · cases h
      · rename_i hlow
        obtain ⟨more, hmore, rfl⟩ := cons_eq_ok_iff.1 h
        obtain ⟨body, hbody, rfl⟩ := ih hmore
        -- a backslash is followed by a letter or by the end, and both were ruled out
        have hslash : c ≠ '\\' := by
          intro hc
          cases hrest : body ++ '"' :: rest with
          | nil => exact hlast hc hrest
          | cons letter tail => exact hshort letter tail hc hrest
        exact ⟨_, .plain (Nat.le_of_not_lt hlow) hquote hslash hbody, rfl⟩

theorem readParts_plain {c : Char} (hlow : 0x20 ≤ c.toNat) (hquote : c ≠ '"') (hslash : c ≠ '\\')
    (fuel : Nat) (cs : List Char) :
    readParts (fuel + 1) (c :: cs) =
      readParts fuel cs >>= fun read => .ok (.char c :: read.1, read.2) := by
  rw [readParts, if_neg (Nat.not_lt_of_le hlow)]
  · rfl
  · exact hquote
  · exact fun hc => absurd hc hslash
  · exact fun _ hc => absurd hc hslash
  · exact fun _ _ hc => absurd hc hslash

theorem readParts_short {letter c : Char} (h : shortEscape? letter = some c) (fuel : Nat)
    (cs : List Char) :
    readParts (fuel + 1) ('\\' :: letter :: cs) =
      readParts fuel cs >>= fun read => .ok (.char c :: read.1, read.2) := by
  rw [readParts, h]
  · rfl
  · rintro rfl
    cases h

theorem readParts_code {n : Nat} {ds : List Char} (h : Hex4 n ds) (fuel : Nat) (cs : List Char) :
    readParts (fuel + 1) ('\\' :: 'u' :: (ds ++ cs)) =
      readParts fuel cs >>= fun read => .ok (.ofNat n :: read.1, read.2) := by
  rw [readParts, readHex4_eq_some_iff.2 ⟨ds, h, rfl⟩]
  rfl

theorem readParts_append {parts : List Part} {body : List Char} (h : Units parts body)
    {fuel : Nat} (hf : body.length < fuel) (rest : List Char) :
    readParts fuel (body ++ '"' :: rest) = .ok (parts, rest) := by
  induction h generalizing fuel with
  | nil =>
    cases fuel with
    | zero => cases hf
    | succ fuel => rfl
  | plain hlow hquote hslash _ ih =>
    obtain ⟨fuel, rfl⟩ := Nat.exists_eq_succ_of_ne_zero (Nat.ne_zero_of_lt hf)
    rw [List.cons_append, readParts_plain hlow hquote hslash]
    exact cons_eq_ok_iff.2 ⟨_, ih (Nat.lt_of_succ_lt_succ hf), rfl⟩
  | short hshort _ ih =>
    obtain ⟨fuel, rfl⟩ := Nat.exists_eq_succ_of_ne_zero (Nat.ne_zero_of_lt hf)
    rw [List.length_cons, List.length_cons] at hf
    rw [List.cons_append, List.cons_append, readParts_short hshort]
    exact cons_eq_ok_iff.2 ⟨_, ih (by omega), rfl⟩
  | code hcode _ ih =>
    obtain ⟨fuel, rfl⟩ := Nat.exists_eq_succ_of_ne_zero (Nat.ne_zero_of_lt hf)
    rw [List.length_cons, List.length_cons, List.length_append] at hf
    rw [List.cons_append, List.cons_append, List.append_assoc, readParts_code hcode]
    exact cons_eq_ok_iff.2 ⟨_, ih (by omega), rfl⟩

/-- A string is read from its opening quote on. -/
theorem readString_eq_ok_iff {cs rest : List Char} {text : Option String} :
    readString cs = .ok (text, rest) ↔
      ∃ body, Quoted text ('"' :: body) ∧ cs = body ++ rest := by
  unfold readString
  rw [bind_eq_ok_iff]
  constructor
  · rintro ⟨⟨parts, rest'⟩, hparts, h⟩
    cases h
    obtain ⟨body, hbody, rfl⟩ := readParts_eq_ok hparts
    exact ⟨body ++ ['"'], .units hbody, by simp⟩
  · rintro ⟨body, hquoted, rfl⟩
    cases hquoted with
    | units hbody =>
      rw [List.append_assoc, List.singleton_append]
      exact ⟨_, readParts_append hbody (by simp) rest, rfl⟩

end Tether.Json
