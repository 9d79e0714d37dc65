import Tether.Proofs.Config.Merging
import Tether.Proofs.Text.Bytes
import Tether.Proofs.Text.Trimming
import Tether.Proofs.Url.Origin

/-!
What loads as settings can be started with. The settings ask that the host name is not blank and
that both URLs are read; the agent and the client ask that their texts are not blank, each in its
own way. What is read as a URL is never blank (`not_isBlank_of_parse`), so neither of them finds
anything empty. What the client can still refuse are texts that no header can carry, which the
settings never look at (`Settings.load_accepted`).
-/

namespace Tether.Config

open Tether.Control Tether.Text Tether.Url

/-! ## Blank texts -/

theorem mem_of_mem_inkOf {s : String} {c : Char} (h : c ∈ inkOf s) : c ∈ s.toList := by
  unfold inkOf at h
  have hfront := (List.dropWhile_suffix isOuter).subset (List.mem_reverse.1 (List.mem_filter.1 h).1)
  exact (List.dropWhile_suffix isOuter).subset (List.mem_reverse.1 hfront)

/-- A URL begins with a letter, and a blank text has none. -/
theorem not_isBlank_of_parse {domains : Url.DomainReader} {s : String} {url : Url}
    (h : Url.parse domains s = .ok url) :
    isBlank s = false := by
  unfold Url.parse at h
  split at h
  · cases h
  · rename_i scheme rest hread
    obtain ⟨name, first, hink, -, hfirst, halpha, -⟩ := readScheme_ok hread
    have hmem : first ∈ s.toList := by
      refine mem_of_mem_inkOf (hink ▸ List.mem_append_left _ ?_)
      exact List.mem_of_mem_head? hfirst
    refine Bool.eq_false_iff.2 fun hblank => ?_
    have := List.all_eq_true.1 hblank first hmem
    rw [isBlankChar_of_isAlphanum (by simp [Char.isAlphanum, halpha])] at this
    cases this

theorem IsHttpUrl.not_isBlank {domains : Url.DomainReader} {value : String}
    (h : IsHttpUrl domains value) : isBlank value = false := by
  obtain ⟨url, -, hparse, -⟩ := h
  exact not_isBlank_of_parse hparse

/-! ## Texts for headers -/

/-- A byte that the value of a header cannot hold: a control character that is no tab. -/
def UnfitByte (b : UInt8) : Prop := b.toNat < 0x20 ∧ b.toNat ≠ 0x09 ∨ b.toNat = 0x7F

/-- A text that holds such a byte. -/
def Unfit (s : String) : Prop := ∃ b ∈ s.toUTF8.toList, UnfitByte b

theorem UnfitByte.lt {b : UInt8} (h : UnfitByte b) : b.toNat < 128 := by
  unfold UnfitByte at h
  omega

theorem isHeaderChar_eq_false_iff {c : Char} :
    isHeaderChar c = false ↔ c.toNat < 128 ∧ UnfitByte c.toNat.toUInt8 := by
  have htab : c = '\t' ↔ c.toNat = 9 := Char.toNat_inj.symm
  have hchar : isHeaderChar c = false ↔ c.toNat < 0x20 ∧ c.toNat ≠ 0x09 ∨ c.toNat = 0x7F := by
    simp only [isHeaderChar, Bool.or_eq_false_iff, Bool.and_eq_false_iff, decide_eq_false_iff_not,
      htab]
    omega
  have hbyte (hlt : c.toNat < 128) : UnfitByte c.toNat.toUInt8 ↔ isHeaderChar c = false := by
    rw [hchar, UnfitByte, toNat_toUInt8 hlt]
  constructor
  · intro h
    have hlt : c.toNat < 128 := by
      rw [hchar] at h
      omega
    exact ⟨hlt, (hbyte hlt).2 h⟩
  · rintro ⟨hlt, h⟩
    exact (hbyte hlt).1 h

theorem isHeaderValue_eq_false_iff {s : String} : isHeaderValue s = false ↔ Unfit s := by
  have hmem {b : UInt8} (h : UnfitByte b) :
      b ∈ s.toUTF8.toList ↔ ∃ c ∈ s.toList, c.toNat < 128 ∧ b = c.toNat.toUInt8 := by
    rw [← mem_toUTF8_of_lt h.lt, String.ofList_toList]
  unfold isHeaderValue Unfit
  rw [List.all_eq_false]
  constructor
  · rintro ⟨c, hc, h⟩
    obtain ⟨hlt, hunfit⟩ := isHeaderChar_eq_false_iff.1 (Bool.eq_false_iff.2 h)
    exact ⟨_, (hmem hunfit).2 ⟨c, hc, hlt, rfl⟩, hunfit⟩
  · rintro ⟨b, hb, hunfit⟩
    obtain ⟨c, hc, hlt, rfl⟩ := (hmem hunfit).1 hb
    exact ⟨c, hc, Bool.eq_false_iff.1 (isHeaderChar_eq_false_iff.2 ⟨hlt, hunfit⟩)⟩

theorem isHeaderValue_bearer (key : String) :
    isHeaderValue ("Bearer " ++ key) = isHeaderValue key := by
  unfold isHeaderValue
  rw [String.toList_append, List.all_append]
  rfl

theorem Client.ofConfig_eq_error_iff {config : ClientConfig} {e : Control.Error}
    (hurl : isBlank config.apiUrl = false) (hkey : config.apiKey ≠ "") :
    Client.ofConfig config = .error e ↔
      Unfit config.apiKey ∧ e = .config "Invalid API key format" ∨
        ¬ Unfit config.apiKey ∧ Unfit config.clientId ∧ e = .config "Invalid client id format" := by
  unfold Client.ofConfig ClientConfig.fault?
  rw [hurl, if_neg Bool.false_ne_true, if_neg hkey, isHeaderValue_bearer]
  simp only [← isHeaderValue_eq_false_iff]
  cases isHeaderValue config.apiKey <;> cases isHeaderValue config.clientId <;> simp [eq_comm]

/-! ## Settings -/

/-- Settings that load make an agent, whose health interval is not zero, and a client, unless the
API key or the client id cannot be carried by a header. The client never misses either the API URL
or the API key. -/
theorem Settings.load_accepted {disk : Disk} {around : Surroundings} {draws : Draws} {args : Args}
    {settings : Settings} (h : (Settings.load disk around draws args).2 = .ok settings) :
    settings.agent.validate = .ok () ∧ 0 < settings.agent.healthInterval.nanos ∧
      (∀ e, Client.ofConfig settings.control = .error e ↔
        Unfit settings.control.apiKey ∧ e = .config "Invalid API key format" ∨
          ¬ Unfit settings.control.apiKey ∧ Unfit settings.control.clientId ∧
            e = .config "Invalid client id format") ∧
      ∀ reason ∈ ["api_url is empty", "api_key is empty"],
        Client.ofConfig settings.control ≠ .error (.config reason) := by
  obtain ⟨file, -, hbuild⟩ := Settings.load_eq_ok_iff.1 h
  let l : Layers := ⟨around, draws, args, file⟩
  have hmeets : ∀ need, l.Meets need := (l.build_eq_ok_iff.1 hbuild).1
  have hmakes : l.Makes settings := l.build_makes hbuild
  have hinterval : settings.agent.healthInterval.nanos ≠ 0 := by
    rw [hmakes.healthInterval]
    exact hmeets .healthInterval
  have hurl : isBlank settings.control.apiUrl = false :=
    (hmeets (.soundUrl .api) _ hmakes.apiUrl).not_isBlank
  have hkey : settings.control.apiKey ≠ "" := by
    rw [hmakes.apiKey]
    exact hmeets .apiKey
  have hclient (e : Control.Error) := Client.ofConfig_eq_error_iff (e := e) hurl hkey
  refine ⟨?_, Nat.pos_of_ne_zero hinterval, hclient, fun reason hreason herror => ?_⟩
  · refine settings.agent.validate_eq_ok_iff.2 ⟨?_, ?_, ?_⟩
    · rw [hmakes.hostname]
      exact hmeets .hostname
    · exact (hmeets (.soundUrl .control) _ hmakes.controlUrl).not_isBlank
    · exact Bool.eq_false_iff.2 (mt (Time.Span.isZero_iff _).1 hinterval)
  · obtain ⟨-, h⟩ | ⟨-, -, h⟩ := (hclient _).1 herror
    · cases h
      exact absurd hreason (by decide)
    · cases h
      exact absurd hreason (by decide)

/-- A tab in the API key does no harm, a line break in the client id does. -/
theorem Settings.load_accepted_broken : ∃ settings,
    (Settings.load (fun _ => .error .notText) {} ⟨0, 0, 0⟩ {
        controlUrl := some " https://control.example.com"
        apiUrl := some "https://api.example.com"
        apiKey := some "a\tb"
        clientId := some "c\n" }).2 = .ok settings ∧
      settings.agent.validate = .ok () ∧
      Client.ofConfig settings.control = .error (.config "Invalid client id format") := by
  obtain ⟨settings, hload, hcontrol⟩ := exists_of_toOption (f := (·.control))
    (show (Settings.load (fun _ => .error .notText) {} ⟨0, 0, 0⟩ {
        controlUrl := some " https://control.example.com"
        apiUrl := some "https://api.example.com"
        apiKey := some "a\tb"
        clientId := some "c\n" }).2.toOption.map _ =
      some { apiUrl := "https://api.example.com", apiKey := "a\tb", clientId := "c\n" } by
      decide +kernel)
  obtain ⟨hagent, -, hclient, -⟩ := Settings.load_accepted hload
  refine ⟨settings, hload, hagent, (hclient _).2 (.inr ⟨?_, ?_, rfl⟩)⟩
  · rw [hcontrol, ← isHeaderValue_eq_false_iff]
    decide
  · rw [hcontrol, ← isHeaderValue_eq_false_iff]
    decide

end Tether.Config
