import Tether.Control.Exchange
import Tether.Proofs.Json.Reader
import Tether.Proofs.Steps
import Tether.Proofs.Text.Trimming

/-!
What a response comes to. The body of a success holds a key if it is a text of JSON (`Json.IsText`)
that spells an object with exactly one member `key`, or a list of one item (`Holds`); the key is
then the text of that member, blanks and all, unless it holds nothing but blanks. Any other success
is a response that makes no sense, and everything else a refusal, in the words of the body or, where
that is blank, of the status (`Says`). `Client.ask_answered` is the three of them together.
-/

namespace Tether.Control

open Tether.Json Tether.Text Tether.Url

/-- The text has a character that is not blank. -/
def HasInk (s : String) : Prop := ∃ c ∈ s.toList, isBlankChar c = false

theorem isBlank_eq_false_iff {s : String} : isBlank s = false ↔ HasInk s := by
  simp [isBlank, HasInk]

theorem isBlank_eq_true_iff {s : String} : isBlank s = true ↔ ¬ HasInk s := by
  rw [← isBlank_eq_false_iff, Bool.not_eq_false]

/-! ## Keys in bodies -/

/-- The text of the key in a value: that of the one member `key` of an object whose names are all
texts, or the one item of a list. -/
inductive Holds : Value → String → Prop
  | object {front back : List (Option String × Value)} {text : String} :
      (∀ m ∈ front ++ back, ∃ name, m.1 = some name ∧ name ≠ "key") →
      Holds (.object (front ++ (some "key", .string (some text)) :: back)) text
  | array {text : String} : Holds (.array [.string (some text)]) text

/-- The body is a text of JSON with a key in it. -/
def BodyHolds (body text : String) : Prop := ∃ v, IsText v body.toList ∧ Holds v text

theorem textOf_eq_ok_iff {v : Value} {text : String} :
    textOf v = .ok text ↔ v = .string (some text) := by
  cases v with
  | string t => cases t <;> simp [textOf]
  | _ => simp [textOf]

/-- Exactly one of some members has the name, if the others are apart from it. -/
theorem filter_name_eq_singleton_iff {members : List (Option String × Value)}
    {m : Option String × Value} :
    (members.filter fun m => m.1 == some "key") = [m] ↔
      ∃ front back, members = front ++ m :: back ∧ m.1 = some "key" ∧
        ∀ m' ∈ front ++ back, m'.1 ≠ some "key" := by
  simp only [List.filter_eq_cons_iff, List.filter_eq_nil_iff, List.forall_mem_append, beq_iff_eq]
  constructor
  · rintro ⟨front, back, rfl, hfront, hm, hback⟩
    exact ⟨front, back, rfl, hm, hfront, hback⟩
  · rintro ⟨front, back, rfl, hm, hfront, hback⟩
    exact ⟨front, back, rfl, hfront, hm, hback⟩

/-- All names are texts. -/
theorem any_isNone_eq_false_iff {members : List (Option String × Value)} :
    (members.any fun m => m.1.isNone) = false ↔ ∀ m ∈ members, ∃ name, m.1 = some name := by
  simp [Option.ne_none_iff_exists']

theorem keyText_object_eq_ok_iff {members : List (Option String × Value)} {text : String} :
    keyText (.object members) = .ok text ↔ Holds (.object members) text := by
  rw [keyText]
  constructor
  · intro h
    split at h
    · cases h
    · rename_i hnames
      have hnamed := any_isNone_eq_false_iff.1 (Bool.not_eq_true _ ▸ hnames)
      split at h
      · cases h
      · rename_i m hone
        obtain ⟨front, back, rfl, hm, hothers⟩ := filter_name_eq_singleton_iff.1 hone
        obtain ⟨name, v⟩ := m
        obtain rfl : name = some "key" := hm
        obtain rfl : v = .string (some text) := textOf_eq_ok_iff.1 h
        apply Holds.object
        intro m hm
        have hmem : m ∈ front ++ (some "key", Value.string (some text)) :: back := by
          simp only [List.mem_append, List.mem_cons] at hm ⊢
          exact hm.imp_right .inr
        obtain ⟨name, hname⟩ := hnamed m hmem
        exact ⟨name, hname, fun he => hothers m hm (by rw [hname, he])⟩
      · cases h
  · intro h
    cases h with
    | @object front back _ hothers =>
      have hone : ((front ++ (some "key", Value.string (some text)) :: back).filter
          fun m => m.1 == some "key") = [(some "key", .string (some text))] := by
        apply filter_name_eq_singleton_iff.2
        refine ⟨front, back, rfl, rfl, ?_⟩
        intro m hm he
        obtain ⟨name, hname, hne⟩ := hothers m hm
        rw [hname] at he
        exact hne (Option.some.inj he)
      have hnamed : ((front ++ (some "key", Value.string (some text)) :: back).any
          fun m => m.1.isNone) = false := by
        apply any_isNone_eq_false_iff.2
        intro m hm
        simp only [List.mem_append, List.mem_cons] at hm
        obtain hm | rfl | hm := hm
        · obtain ⟨name, hname, -⟩ := hothers m (List.mem_append_left _ hm)
          exact ⟨name, hname⟩
        · exact ⟨"key", rfl⟩
        · obtain ⟨name, hname, -⟩ := hothers m (List.mem_append_right _ hm)
          exact ⟨name, hname⟩
      rw [hnamed, hone]
      rfl

theorem keyText_eq_ok_iff {v : Value} {text : String} : keyText v = .ok text ↔ Holds v text := by
  cases v with
  | object members => exact keyText_object_eq_ok_iff
  | array items =>
    constructor
    · intro h
      unfold keyText at h
      split at h
      · rename_i item he
        cases he
        obtain rfl := textOf_eq_ok_iff.1 h
        exact .array
      · cases h
      · rename_i he
        cases he
      · cases h
    · intro h
      cases h
      rfl
  | _ =>
    constructor
    · intro h
      cases h
    · intro h
      cases h

theorem readBody_eq_ok_iff {body text : String} :
    readBody body = .ok text ↔ BodyHolds body text := by
  unfold readBody BodyHolds
  constructor
  · intro h
    cases hparse : Json.parse body with
    | error fault =>
      rw [hparse] at h
      cases h
    | ok v =>
      rw [hparse] at h
      exact ⟨v, parse_eq_ok_iff.1 hparse, keyText_eq_ok_iff.1 h⟩
  · rintro ⟨v, hv, hk⟩
    rw [parse_eq_ok_iff.2 hv]
    exact keyText_eq_ok_iff.2 hk

/-! ## Words of refusals -/

/-- What the response to a refused request says of it: its body without the blanks around it, or,
if there is nothing else in it, what its status means. -/
inductive Says (status : Nat) (body : String) : String → Prop
  | body {core : List Char} : HasInk body → Framed body.toList core →
      Says status body (String.ofList core)
  | status {reason : String} : ¬ HasInk body → statusReason? status = some reason →
      Says status body reason
  | unknown : ¬ HasInk body → statusReason? status = none → Says status body "Unknown"

theorem says_refusalText (status : Nat) (body : String) :
    Says status body (refusalText status body) := by
  unfold refusalText
  split
  · rename_i hblank
    have hink := isBlank_eq_true_iff.1 hblank
    cases hreason : statusReason? status with
    | none => exact .unknown hink hreason
    | some reason => exact .status hink hreason
  · rename_i hink
    exact .body (isBlank_eq_false_iff.1 (Bool.not_eq_true _ ▸ hink)) (framed_trimChars _)

theorem refusalText_eq_iff {status : Nat} {body message : String} :
    refusalText status body = message ↔ Says status body message := by
  constructor
  · rintro rfl
    exact says_refusalText status body
  · intro h
    unfold refusalText
    cases h with
    | body hink hframed =>
      rw [isBlank_eq_false_iff.2 hink, ← hframed.trimChars_eq]
      rfl
    | status hink hreason =>
      rw [isBlank_eq_true_iff.2 hink, hreason]
      rfl
    | unknown hink hreason =>
      rw [isBlank_eq_true_iff.2 hink, hreason]
      rfl

/-! ## Responses -/

variable {status : Nat} {body : String}

theorem isSuccess_iff : isSuccess status = true ↔ 200 ≤ status ∧ status < 300 := by
  simp [isSuccess]

theorem classify_of_not_success (h : ¬ isSuccess status = true) :
    classify status body = .error (.api status (refusalText status body)) := by
  rw [classify, if_neg h]

theorem classify_of_holds {text : String} (h : isSuccess status = true)
    (hbody : BodyHolds body text) : classify status body = Key.ofText text := by
  rw [classify, if_pos h, readBody_eq_ok_iff.2 hbody]

theorem classify_of_not_holds (h : isSuccess status = true)
    (hbody : ¬ ∃ text, BodyHolds body text) :
    ∃ reason, classify status body = .error (.invalidResponse reason) := by
  rw [classify, if_pos h]
  cases hread : readBody body with
  | ok text => exact absurd ⟨text, readBody_eq_ok_iff.1 hread⟩ hbody
  | error fault => exact ⟨_, rfl⟩

/-- A key comes of a response just when it is a success and its body holds the key. -/
theorem classify_eq_ok_iff {k : Key} :
    classify status body = .ok k ↔ isSuccess status = true ∧ BodyHolds body k.text := by
  constructor
  · intro h
    by_cases hs : isSuccess status = true
    · by_cases hbody : ∃ text, BodyHolds body text
      · obtain ⟨text, hbody⟩ := hbody
        rw [classify_of_holds hs hbody, Key.ofText_eq_ok_iff] at h
        exact ⟨hs, h ▸ hbody⟩
      · obtain ⟨reason, he⟩ := classify_of_not_holds hs hbody
        cases he.symm.trans h
    · rw [classify_of_not_success hs] at h
      cases h
  · rintro ⟨hs, hbody⟩
    rw [classify_of_holds hs hbody, Key.ofText_eq_ok_iff]

theorem classify_eq_api_iff {s : Nat} {message : String} :
    classify status body = .error (.api s message) ↔
      ¬ isSuccess status = true ∧ s = status ∧ Says status body message := by
  rw [← refusalText_eq_iff]
  constructor
  · intro h
    by_cases hs : isSuccess status = true
    · by_cases hbody : ∃ text, BodyHolds body text
      · obtain ⟨text, hbody⟩ := hbody
        rw [classify_of_holds hs hbody, Key.ofText] at h
        split at h
        · cases h
        · cases h
      · obtain ⟨reason, he⟩ := classify_of_not_holds hs hbody
        cases he.symm.trans h
    · rw [classify_of_not_success hs] at h
      cases h
      exact ⟨hs, rfl, rfl⟩
  · rintro ⟨hs, rfl, rfl⟩
    exact classify_of_not_success hs

theorem classify_eq_invalid_iff :
    (∃ reason, classify status body = .error (.invalidResponse reason)) ↔
      isSuccess status = true ∧ ¬ ∃ text, BodyHolds body text ∧ HasInk text := by
  constructor
  · rintro ⟨reason, h⟩
    by_cases hs : isSuccess status = true
    · refine ⟨hs, ?_⟩
      rintro ⟨text, hbody, hink⟩
      have hk : classify status body = .ok ⟨text, isBlank_eq_false_iff.2 hink⟩ :=
        classify_eq_ok_iff.2 ⟨hs, hbody⟩
      cases hk.symm.trans h
    · rw [classify_of_not_success hs] at h
      cases h
  · rintro ⟨hs, hnone⟩
    by_cases hbody : ∃ text, BodyHolds body text
    · obtain ⟨text, hbody⟩ := hbody
      rw [classify_of_holds hs hbody, Key.ofText]
      split
      · rename_i hink
        exact absurd ⟨text, hbody, isBlank_eq_false_iff.1 hink⟩ hnone
      · exact ⟨_, rfl⟩
    · exact classify_of_not_holds hs hbody

theorem Client.ask_eq_classify {c : Client} {link : Link} {url : Url} (hurl : c.target = .ok url)
    (hlink : link url = .answered status body) : c.ask link = classify status body := by
  simp only [Client.ask, hurl, bind, Except.bind, hlink]

/-- What an answered request comes to. There is a key just if the status is one of success and the
body holds the text of the key, which has ink in it; the key has this very text. The refusals are
the other statuses, in the words of the response. Every other response makes no sense. -/
theorem Client.ask_answered {c : Client} {link : Link} {url : Url} (hurl : c.target = .ok url)
    (hlink : link url = .answered status body) :
    (∀ k : Key, c.ask link = .ok k ↔
      (200 ≤ status ∧ status < 300) ∧ BodyHolds body k.text ∧ HasInk k.text) ∧
    ((∃ k : Key, c.ask link = .ok k) ↔
      (200 ≤ status ∧ status < 300) ∧ ∃ text, BodyHolds body text ∧ HasInk text) ∧
    (∀ s message, c.ask link = .error (.api s message) ↔
      ¬ (200 ≤ status ∧ status < 300) ∧ s = status ∧ Says status body message) ∧
    ((∃ message, c.ask link = .error (.api status message)) ↔
      ¬ (200 ≤ status ∧ status < 300)) ∧
    ((∃ reason, c.ask link = .error (.invalidResponse reason)) ↔
      (200 ≤ status ∧ status < 300) ∧ ¬ ∃ text, BodyHolds body text ∧ HasInk text) := by
  rw [Client.ask_eq_classify hurl hlink]
  simp only [← isSuccess_iff]
  refine ⟨?_, ?_, ?_, ?_, classify_eq_invalid_iff⟩
  · intro k
    rw [classify_eq_ok_iff, and_iff_left (isBlank_eq_false_iff.1 k.notBlank)]
  · simp only [classify_eq_ok_iff]
    constructor
    · rintro ⟨k, hs, hbody⟩
      exact ⟨hs, k.text, hbody, isBlank_eq_false_iff.1 k.notBlank⟩
    · rintro ⟨hs, text, hbody, hink⟩
      exact ⟨⟨text, isBlank_eq_false_iff.2 hink⟩, hs, hbody⟩
  · intro s message
    exact classify_eq_api_iff
  · constructor
    · rintro ⟨message, h⟩
      exact (classify_eq_api_iff.1 h).1
    · intro hs
      exact ⟨_, classify_of_not_success hs⟩

/-- The key in the body of a success keeps its blanks. -/
theorem Client.ask_answered_created :
    ∃ url k, (Client.mk "https://api.example.com/server/network-key" [] none).target = .ok url ∧
      k.text = " tskey " ∧
      (Client.mk "https://api.example.com/server/network-key" [] none).ask
        (fun _ => .answered 201 "\x7b\"ttl\": 3, \"key\": \" tskey \"\x7d") = .ok k := by
  obtain ⟨url, hurl, -⟩ := exists_of_toOption (f := (·.scheme))
    (show (Client.mk "https://api.example.com/server/network-key" [] none).target.toOption.map _ =
      some "https" by decide +kernel)
  have hbody : readBody "\x7b\"ttl\": 3, \"key\": \" tskey \"\x7d" = .ok " tskey " := by
    decide +kernel
  have hink : isBlank " tskey " = false := by decide +kernel
  exact ⟨url, ⟨" tskey ", hink⟩, hurl, rfl, ((Client.ask_answered hurl rfl).1 _).2
    ⟨by decide, readBody_eq_ok_iff.1 hbody, isBlank_eq_false_iff.1 hink⟩⟩

end Tether.Control
