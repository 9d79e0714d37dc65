import Tether.Config.Settings
import Tether.Proofs.Steps
import Tether.Proofs.Text.Bytes

/-!
How the settings are made of their layers. The arguments lie above the file and the file above the
defaults, and of each setting the topmost value counts; the variable that the file names for the
API key lies above the key that it holds (`Layers`, `topmost`). Telemetry is on where one of the
layers turns it on, and the forwards are a list of one layer or of the other as a whole (`Makes`).

Nothing is made unless ten things are in order. The file is the first of them; the others are the
needs of the layers with what they have become together (`Need.order`, `Layers.Meets`). The
settings are there just when all are in order, and the error is that of the first that is not
(`Settings.load_layers`).
-/

namespace Tether.Config

open Tether.Direct Tether.Net Tether.Text Tether.Time

/-! ## Layers -/

/-- The value of the first layer that gives one. -/
def topmost {α : Type} : List (Option α) → Option α
  | [] => none
  | some a :: _ => some a
  | none :: lower => topmost lower

theorem topmost_pair {α : Type} (upper lower : Option α) :
    topmost [upper, lower] = (upper <|> lower) := by
  cases upper <;> cases lower <;> rfl

/-- What settings are made of. -/
structure Layers where
  around : Surroundings
  draws : Draws
  args : Args
  file : File

namespace Layers

/-- The host name that comes of the layers. -/
def hostname (l : Layers) : String :=
  (topmost [l.args.hostname, l.file.hostname]).getD l.draws.hostname

/-- The URL that comes of the layers. -/
def url? (l : Layers) : UrlUse → Option String
  | .control => topmost [l.args.controlUrl, l.file.controlUrl]
  | .api => topmost [l.args.apiUrl, l.file.api.url]

/-- The API key that comes of the layers. -/
def apiKey (l : Layers) : String :=
  (topmost [l.args.apiKey, l.file.api.keyEnv.bind l.around.env.get?, l.file.api.key]).getD ""

/-- A span that the layers give in seconds. -/
def span? (given filed : Option UInt64) : Option Span :=
  (topmost [given, filed]).map fun n => Span.ofSeconds n.toNat

/-- The health interval that comes of the layers. -/
def healthInterval (l : Layers) : Span :=
  (span? l.args.healthInterval l.file.healthIntervalSecs).getD (.ofSeconds 5)

/-- The settings that the layers make. -/
structure Makes (l : Layers) (s : Settings) : Prop where
  hostname : s.agent.hostname = l.hostname
  controlUrl : l.url? .control = some s.agent.controlUrl
  stateDir : s.agent.stateDir =
    (topmost [l.args.stateDir, l.file.stateDir]).getD l.around.stateDir
  livenessPort : s.agent.livenessPort =
    (topmost [l.args.livenessPort, l.file.livenessPort]).getD 80
  healthInterval : s.agent.healthInterval = l.healthInterval
  keyRetry : s.agent.keyRetry = (span? l.args.keyRetry l.file.keyRetrySecs).getD (.ofSeconds 5)
  targetHost : s.agent.targetHost = "localhost"
  apiUrl : l.url? .api = some s.control.apiUrl
  apiKey : s.control.apiKey = l.apiKey
  clientId : s.control.clientId =
    (topmost [l.args.clientId, l.file.api.clientId]).getD l.draws.clientId
  telemetry : s.control.telemetry = true ↔
    l.args.telemetry = true ∨ l.file.api.telemetry = some true
  timeout : s.control.timeout = span? l.args.apiTimeout l.file.api.timeoutSecs
  bindHost : s.direct.bindHost =
    (topmost [l.args.bindHost, l.file.direct.bindHost]).getD (.v4 .loopback)
  forwardsGiven : l.args.forwards ≠ [] → s.direct.forwards = l.args.forwards
  forwardsFiled : l.args.forwards = [] →
    List.Forall₂ (fun entry forward => Forward.parse entry = .ok forward)
      l.file.direct.forwards s.direct.forwards

end Layers

/-! ## Needs -/

/-- The text is a URL for HTTP that names a host. -/
def IsHttpUrl (domains : Url.DomainReader) (value : String) : Prop :=
  ∃ url host, Url.parse domains value = .ok url ∧ (url.scheme = "http" ∨ url.scheme = "https") ∧
    url.host = some host

/-- Why a text is no URL for HTTP that names a host. -/
inductive Spoils (domains : Url.DomainReader) (value : String) : UrlFault → Prop
  | malformed {fault : Url.Fault} : Url.parse domains value = .error fault →
      Spoils domains value (.malformed fault)
  | scheme {url : Url} : Url.parse domains value = .ok url → url.scheme ≠ "http" →
      url.scheme ≠ "https" → Spoils domains value (.scheme url.scheme)
  | noHost {url : Url} : Url.parse domains value = .ok url →
      (url.scheme = "http" ∨ url.scheme = "https") → url.host = none → Spoils domains value .noHost

/-- The error where no URL is given. -/
def UrlUse.missing : UrlUse → Error
  | .control => .noControlUrl
  | .api => .noApiUrl

/-- What is needed of the layers. -/
inductive Need
  /-- The variable that the file names for the API key is set. -/
  | keyVariable
  /-- A URL is given. -/
  | url (use : UrlUse)
  /-- The host name is not blank. -/
  | hostname
  /-- The API key is not empty. -/
  | apiKey
  /-- The URL is one for HTTP. -/
  | soundUrl (use : UrlUse)
  /-- The health interval is not zero. -/
  | healthInterval
  /-- The forwards of the file read, if they count. -/
  | forwards

/-- The needs in the order in which they are looked at. -/
def Need.order : List Need := [
  .keyVariable, .url .control, .url .api, .hostname, .apiKey, .soundUrl .control, .soundUrl .api,
  .healthInterval, .forwards]

theorem Need.mem_order (need : Need) : need ∈ Need.order := by
  cases need with
  | url use => cases use <;> simp [Need.order]
  | soundUrl use => cases use <;> simp [Need.order]
  | _ => simp [Need.order]

namespace Layers

/-- The layers meet a need. -/
def Meets (l : Layers) : Need → Prop
  | .keyVariable => ∀ name, l.file.api.keyEnv = some name →
      ∃ value, l.around.env.get? name = some value
  | .url use => ∃ value, l.url? use = some value
  | .hostname => isBlank l.hostname = false
  | .apiKey => l.apiKey ≠ ""
  | .soundUrl use => ∀ value, l.url? use = some value → IsHttpUrl l.around.domains value
  | .healthInterval => l.healthInterval.nanos ≠ 0
  | .forwards => l.args.forwards ≠ [] ∨
      ∀ entry ∈ l.file.direct.forwards, ∃ forward, Forward.parse entry = .ok forward

/-- The layers do not meet a need, and the error says so. -/
def Lacks (l : Layers) (need : Need) (e : Error) : Prop :=
  match need with
  | .keyVariable => ∃ name, l.file.api.keyEnv = some name ∧ l.around.env.get? name = none ∧
      e = .unsetVariable name
  | .url use => l.url? use = none ∧ e = use.missing
  | .hostname => isBlank l.hostname = true ∧ e = .blankHostname
  | .apiKey => l.apiKey = "" ∧ e = .noApiKey
  | .soundUrl use => ∃ value, l.url? use = some value ∧
      ∃ fault, Spoils l.around.domains value fault ∧ e = .badUrl use value fault
  | .healthInterval => l.healthInterval.nanos = 0 ∧ e = .zeroHealthInterval
  | .forwards => l.args.forwards = [] ∧
      ∃ front entry back, l.file.direct.forwards = front ++ entry :: back ∧
        (∀ earlier ∈ front, ∃ forward, Forward.parse earlier = .ok forward) ∧
        ∃ fault, Forward.parse entry = .error fault ∧ e = .badForward entry fault

/-- The error is that of the first need which is not met. -/
def FirstLacks (l : Layers) (e : Error) : Prop :=
  ∃ front need back, Need.order = front ++ need :: back ∧
    (∀ earlier ∈ front, l.Meets earlier) ∧ ¬ l.Meets need ∧ l.Lacks need e

end Layers

/-! ## Checks -/

theorem File.apiKey_eq_error {file : File} {env : Environment} {e : Error} :
    file.apiKey env = .error e ↔ ∃ name, file.api.keyEnv = some name ∧ env.get? name = none ∧
      e = .unsetVariable name := by
  unfold File.apiKey
  cases file.api.keyEnv with
  | none => simp
  | some name =>
    cases hvalue : env.get? name with
    | none => simp [hvalue, eq_comm]
    | some value => simp [hvalue]

theorem File.exists_apiKey_iff {file : File} {env : Environment} :
    (∃ key, file.apiKey env = .ok key) ↔
      ∀ name, file.api.keyEnv = some name → ∃ value, env.get? name = some value := by
  unfold File.apiKey
  cases file.api.keyEnv with
  | none => simp
  | some name =>
    cases hvalue : env.get? name with
    | none => simp [hvalue]
    | some value => simp [hvalue]

theorem require_eq_ok_iff {α : Type} {value : Option α} {e : Error} {a : α} :
    require value e = .ok a ↔ value = some a := by
  cases value <;> simp [require]

theorem require_eq_error_iff {α : Type} {value : Option α} {missing e : Error} :
    require value missing = .error e ↔ value = none ∧ e = missing := by
  cases value <;> simp [require, eq_comm]

theorem checkUrl_eq_ok_iff {domains : Url.DomainReader} {use : UrlUse} {value : String} :
    checkUrl domains use value = .ok () ↔ IsHttpUrl domains value := by
  unfold checkUrl IsHttpUrl
  cases hparse : Url.parse domains value with
  | error fault => simp
  | ok url =>
    dsimp only
    split
    · rename_i hscheme
      simp [hscheme.1, hscheme.2]
    · rename_i hscheme
      cases hhost : url.host with
      | none => simp [hhost]
      | some host => simp [hhost, or_iff_not_and_not.2 hscheme]

theorem checkUrl_eq_error_iff {domains : Url.DomainReader} {use : UrlUse} {value : String}
    {e : Error} : checkUrl domains use value = .error e ↔
      ∃ fault, Spoils domains value fault ∧ e = .badUrl use value fault := by
  constructor
  · intro h
    unfold checkUrl at h
    split at h
    · rename_i fault hparse
      cases h
      exact ⟨_, .malformed hparse, rfl⟩
    · rename_i url hparse
      split at h
      · rename_i hscheme
        cases h
        exact ⟨_, .scheme hparse hscheme.1 hscheme.2, rfl⟩
      · rename_i hscheme
        split at h
        · rename_i hhost
          cases h
          have hnone := Option.isNone_iff_eq_none.1 hhost
          exact ⟨_, .noHost hparse (or_iff_not_and_not.2 hscheme) hnone, rfl⟩
        · cases h
  · rintro ⟨fault, hfault, rfl⟩
    unfold checkUrl
    cases hfault with
    | malformed hparse => rw [hparse]
    | scheme hparse hhttp hhttps =>
      rw [hparse]
      exact if_pos ⟨hhttp, hhttps⟩
    | noHost hparse hscheme hhost =>
      rw [hparse]
      dsimp only
      rw [if_neg (or_iff_not_and_not.1 hscheme), hhost]
      rfl

theorem readForwards_eq_ok_iff {entries : List String} {forwards : List Forward} :
    readForwards entries = .ok forwards ↔
      List.Forall₂ (fun entry forward => Forward.parse entry = .ok forward) entries forwards := by
  unfold readForwards
  simp only [mapM_eq_ok_iff, mapError_eq_ok_iff]

theorem exists_readForwards_iff {entries : List String} :
    (∃ forwards, readForwards entries = .ok forwards) ↔
      ∀ entry ∈ entries, ∃ forward, Forward.parse entry = .ok forward := by
  unfold readForwards
  simp only [exists_mapM_eq_ok_iff, mapError_eq_ok_iff]

theorem readForwards_eq_error_iff {entries : List String} {e : Error} :
    readForwards entries = .error e ↔ ∃ front entry back, entries = front ++ entry :: back ∧
      (∀ earlier ∈ front, ∃ forward, Forward.parse earlier = .ok forward) ∧
      ∃ fault, Forward.parse entry = .error fault ∧ e = .badForward entry fault := by
  unfold readForwards
  simp only [mapM_eq_error_iff, mapError_eq_ok_iff, mapError_eq_error_iff]

namespace Layers

variable (l : Layers)

/-- The forwards that come of the layers. -/
def forwards : Except Error (List Forward) :=
  if l.args.forwards.isEmpty then readForwards l.file.direct.forwards else .ok l.args.forwards

/-- Looks at a need. -/
def check : Need → Except Error Unit
  | .keyVariable => (l.file.apiKey l.around.env).map fun _ => ()
  | .url use => (require (l.url? use) use.missing).map fun _ => ()
  | .hostname => if isBlank l.hostname then .error .blankHostname else .ok ()
  | .apiKey => if l.apiKey = "" then .error .noApiKey else .ok ()
  | .soundUrl use =>
    match l.url? use with
    | some value => checkUrl l.around.domains use value
    | none => .ok ()
  | .healthInterval => if l.healthInterval.isZero then .error .zeroHealthInterval else .ok ()
  | .forwards => l.forwards.map fun _ => ()

/-- The settings with these URLs and forwards. -/
def settings (controlUrl apiUrl : String) (forwards : List Forward) : Settings where
  agent := {
    hostname := l.hostname
    controlUrl := controlUrl
    stateDir := (topmost [l.args.stateDir, l.file.stateDir]).getD l.around.stateDir
    livenessPort := (topmost [l.args.livenessPort, l.file.livenessPort]).getD 80
    healthInterval := l.healthInterval
    keyRetry := (span? l.args.keyRetry l.file.keyRetrySecs).getD (.ofSeconds 5) }
  control := {
    apiUrl := apiUrl
    apiKey := l.apiKey
    clientId := (topmost [l.args.clientId, l.file.api.clientId]).getD l.draws.clientId
    telemetry := l.args.telemetry || l.file.api.telemetry.getD false
    timeout := span? l.args.apiTimeout l.file.api.timeoutSecs }
  direct := {
    bindHost := (topmost [l.args.bindHost, l.file.direct.bindHost]).getD (.v4 .loopback)
    forwards := forwards }

theorem hostname_eq :
    l.hostname = (l.args.hostname <|> l.file.hostname).getD l.draws.hostname := by
  rw [hostname, topmost_pair]

theorem url?_control : l.url? .control = (l.args.controlUrl <|> l.file.controlUrl) :=
  topmost_pair _ _

theorem url?_api : l.url? .api = (l.args.apiUrl <|> l.file.api.url) := topmost_pair _ _

theorem healthInterval_eq :
    l.healthInterval = ((l.args.healthInterval <|> l.file.healthIntervalSecs).map secondsOf).getD
      Agent.defaultHealthInterval := by
  rw [healthInterval, span?, topmost_pair]
  rfl

theorem apiKey_eq {key : Option String} (h : l.file.apiKey l.around.env = .ok key) :
    l.apiKey = (l.args.apiKey <|> key).getD "" := by
  unfold File.apiKey at h
  unfold apiKey
  cases hname : l.file.api.keyEnv with
  | none =>
    rw [hname] at h
    cases h
    cases l.args.apiKey <;> cases l.file.api.key <;> rfl
  | some name =>
    rw [hname] at h
    dsimp only at h
    split at h
    · rename_i value hvalue
      cases h
      rw [Option.bind_some, hvalue]
      cases l.args.apiKey <;> rfl
    · cases h

theorem check_soundUrl {use : UrlUse} {value : String} (h : l.url? use = some value) :
    l.check (.soundUrl use) = (checkUrl l.around.domains use value).map fun _ => () := by
  have hcheck : l.check (.soundUrl use) = checkUrl l.around.domains use value := by
    unfold check
    dsimp only
    rw [h]
  rw [hcheck]
  cases checkUrl l.around.domains use value <;> rfl

/-- The settings are built by looking at the needs in their order. -/
theorem build_eq : Settings.build l.around l.draws l.args l.file =
    Need.order.mapM l.check >>= fun _ => l.forwards.map
      (l.settings ((l.url? .control).getD "") ((l.url? .api).getD "")) := by
  unfold Settings.build
  rw [← url?_control, ← url?_api]
  -- one step for each need, in their order
  refine bind_eq_mapM rfl fun key hkey => ?_
  refine bind_eq_mapM rfl fun controlUrl hcontrol => ?_
  refine bind_eq_mapM rfl fun apiUrl hapi => ?_
  rw [require_eq_ok_iff] at hcontrol hapi
  rw [hcontrol, hapi]
  dsimp only
  rw [← hostname_eq, ← healthInterval_eq, ← l.apiKey_eq hkey]
  refine ite_eq_mapM rfl fun _ => ?_
  refine ite_eq_mapM rfl fun _ => ?_
  refine bind_eq_mapM (l.check_soundUrl hcontrol) fun _ _ => ?_
  refine bind_eq_mapM (l.check_soundUrl hapi) fun _ _ => ?_
  refine ite_eq_mapM rfl fun _ => ?_
  have hforwards (k : List Forward → Except Error Settings) :
      (if l.args.forwards.isEmpty = true then readForwards l.file.direct.forwards >>= k
        else pure l.args.forwards >>= k) = l.forwards >>= k := by
    unfold forwards
    split <;> rfl
  refine (hforwards _).trans (bind_eq_mapM rfl fun forwards h => ?_)
  rw [h]
  unfold settings span?
  simp only [topmost_pair]
  rfl

/-! ## What each look comes to -/

theorem check_eq_ok_iff (need : Need) : l.check need = .ok () ↔ l.Meets need := by
  cases need with
  | keyVariable => simp only [check, Meets, map_eq_ok_iff, ← File.exists_apiKey_iff, and_true]
  | url use => simp only [check, Meets, map_eq_ok_iff, require_eq_ok_iff, and_true]
  | hostname => simp only [check, Meets, ite_error_eq_ok_iff, Bool.not_eq_true]
  | apiKey => simp only [check, Meets, ite_error_eq_ok_iff, ne_eq]
  | soundUrl use =>
    simp only [check, Meets]
    cases l.url? use with
    | none => simp
    | some value => simp [checkUrl_eq_ok_iff]
  | healthInterval => simp only [check, Meets, ite_error_eq_ok_iff, Span.isZero_iff, ne_eq]
  | forwards =>
    simp only [check, Meets, forwards, map_eq_ok_iff, and_true]
    by_cases h : l.args.forwards = []
    · simp [h, exists_readForwards_iff]
    · simp [h]

theorem check_eq_error_iff (need : Need) (e : Error) :
    l.check need = .error e ↔ l.Lacks need e := by
  cases need with
  | keyVariable => exact map_eq_error_iff.trans File.apiKey_eq_error
  | url use => exact map_eq_error_iff.trans require_eq_error_iff
  | hostname => exact ite_error_eq_error_iff
  | apiKey => exact ite_error_eq_error_iff
  | soundUrl use =>
    simp only [check, Lacks]
    cases l.url? use with
    | none => simp
    | some value => simp [checkUrl_eq_error_iff]
  | healthInterval =>
    simp only [check, Lacks, ite_error_eq_error_iff, Span.isZero_iff]
  | forwards =>
    simp only [check, Lacks, forwards, map_eq_error_iff]
    by_cases h : l.args.forwards = []
    · simp [h, readForwards_eq_error_iff]
    · simp [h]

theorem exists_mapM_check_iff :
    (∃ units, Need.order.mapM l.check = .ok units) ↔ ∀ need, l.Meets need := by
  rw [exists_mapM_eq_ok_iff]
  constructor
  · intro h need
    obtain ⟨⟨⟩, hneed⟩ := h need need.mem_order
    exact (l.check_eq_ok_iff need).1 hneed
  · intro h need _
    exact ⟨(), (l.check_eq_ok_iff need).2 (h need)⟩

theorem build_eq_ok_iff {s : Settings} :
    Settings.build l.around l.draws l.args l.file = .ok s ↔
      (∀ need, l.Meets need) ∧ ∃ forwards, l.forwards = .ok forwards ∧
        s = l.settings ((l.url? .control).getD "") ((l.url? .api).getD "") forwards := by
  rw [build_eq, bind_eq_ok_iff, ← exists_mapM_check_iff, ← exists_and_right]
  simp only [map_eq_ok_iff]

theorem exists_forwards (h : l.Meets .forwards) : ∃ forwards, l.forwards = .ok forwards := by
  obtain ⟨forwards, hforwards, -⟩ := map_eq_ok_iff.1 ((l.check_eq_ok_iff .forwards).2 h)
  exact ⟨forwards, hforwards⟩

theorem exists_build_iff :
    (∃ s, Settings.build l.around l.draws l.args l.file = .ok s) ↔ ∀ need, l.Meets need := by
  simp only [build_eq_ok_iff]
  constructor
  · rintro ⟨s, h, -⟩
    exact h
  · intro h
    obtain ⟨forwards, hforwards⟩ := l.exists_forwards (h .forwards)
    exact ⟨_, h, forwards, hforwards, rfl⟩

theorem build_eq_error_iff {e : Error} :
    Settings.build l.around l.draws l.args l.file = .error e ↔ l.FirstLacks e := by
  rw [build_eq, bind_eq_error_iff]
  constructor
  · rintro (h | ⟨units, hunits, h⟩)
    · obtain ⟨front, need, back, horder, hfront, hneed⟩ := mapM_eq_error_iff.1 h
      refine ⟨front, need, back, horder, fun earlier hearlier => ?_, fun hmeets => ?_,
        (l.check_eq_error_iff need e).1 hneed⟩
      · obtain ⟨⟨⟩, h⟩ := hfront earlier hearlier
        exact (l.check_eq_ok_iff earlier).1 h
      · rw [(l.check_eq_ok_iff need).2 hmeets] at hneed
        cases hneed
    · -- the forwards were looked at before
      obtain ⟨forwards, hforwards⟩ :=
        l.exists_forwards (l.exists_mapM_check_iff.1 ⟨units, hunits⟩ .forwards)
      rw [hforwards] at h
      cases h
  · rintro ⟨front, need, back, horder, hfront, -, hneed⟩
    refine .inl (mapM_eq_error_iff.2 ⟨front, need, back, horder, fun earlier hearlier => ?_,
      (l.check_eq_error_iff need e).2 hneed⟩)
    exact ⟨(), (l.check_eq_ok_iff earlier).2 (hfront earlier hearlier)⟩

/-- What is built is what the layers make. -/
theorem build_makes {s : Settings}
    (h : Settings.build l.around l.draws l.args l.file = .ok s) : l.Makes s := by
  obtain ⟨hmeets, forwards, hforwards, rfl⟩ := l.build_eq_ok_iff.1 h
  obtain ⟨controlUrl, hcontrol⟩ := hmeets (.url .control)
  obtain ⟨apiUrl, hapi⟩ := hmeets (.url .api)
  rw [hcontrol, hapi]
  refine ⟨rfl, hcontrol, rfl, rfl, rfl, rfl, rfl, hapi, rfl, rfl, ?_, rfl, rfl, ?_, ?_⟩
  · change (l.args.telemetry || l.file.api.telemetry.getD false) = true ↔ _
    cases l.file.api.telemetry <;> simp
  · intro hgiven
    rw [Layers.forwards, if_neg (mt List.isEmpty_iff.1 hgiven)] at hforwards
    exact (Except.ok.inj hforwards).symm
  · intro hempty
    rw [Layers.forwards, if_pos (List.isEmpty_iff.2 hempty)] at hforwards
    exact readForwards_eq_ok_iff.1 hforwards

end Layers

/-! ## The file -/

/-- Why what was found in place of a file is no configuration. -/
inductive Spoilt (bytes : Except Net.Fault (List UInt8)) : FileFault → Prop
  | unreadable {fault : Net.Fault} : bytes = .error fault → Spoilt bytes (.unreadable fault)
  | notText {raw : List UInt8} : bytes = .ok raw → (∀ text : String, raw ≠ text.toUTF8.toList) →
      Spoilt bytes (.unreadable .notText)
  | unparsable {text : String} {fault : Yaml.Fault} : bytes = .ok text.toUTF8.toList →
      File.ofText text = .error fault → Spoilt bytes (.unparsable fault)

/-- The file that the arguments name says this; where they name none, nothing is said. -/
def Loads (disk : Disk) (args : Args) (file : File) : Prop :=
  match args.config with
  | none => file = {}
  | some path => ∃ text, disk path = .ok text.toUTF8.toList ∧ File.ofText text = .ok file

/-- The arguments name a file that does not load, and the error says so. -/
def LoadLacks (disk : Disk) (args : Args) (e : Error) : Prop :=
  ∃ path, args.config = some path ∧ ∃ fault, Spoilt (disk path) fault ∧ e = .file path fault

theorem File.ofBytes_eq_ok_iff {bytes : Except Net.Fault (List UInt8)} {file : File} :
    File.ofBytes bytes = .ok file ↔
      ∃ text, bytes = .ok text.toUTF8.toList ∧ File.ofText text = .ok file := by
  unfold File.ofBytes
  constructor
  · intro h
    split at h
    · cases h
    · split at h
      · cases h
      · rename_i text htext
        rw [fromUTF8?_eq_some_iff.1 htext]
        exact ⟨text, rfl, mapError_eq_ok_iff.1 h⟩
  · rintro ⟨text, rfl, h⟩
    dsimp only
    rw [fromUTF8?_eq_some_iff.2 rfl]
    exact mapError_eq_ok_iff.2 h

theorem File.ofBytes_eq_error_iff {bytes : Except Net.Fault (List UInt8)} {fault : FileFault} :
    File.ofBytes bytes = .error fault ↔ Spoilt bytes fault := by
  unfold File.ofBytes
  constructor
  · intro h
    split at h
    · cases h
      exact .unreadable rfl
    · split at h
      · rename_i hnone
        cases h
        refine .notText rfl fun text htext => ?_
        rw [fromUTF8?_eq_some_iff.2 htext] at hnone
        cases hnone
      · rename_i text htext
        obtain ⟨fault, hfault, rfl⟩ := mapError_eq_error_iff.1 h
        rw [fromUTF8?_eq_some_iff.1 htext]
        exact .unparsable rfl hfault
  · intro h
    cases h with
    | unreadable h => rw [h]
    | notText h htext =>
      rw [h]
      dsimp only
      rw [Option.eq_none_iff_forall_ne_some.2 fun text h => htext text (fromUTF8?_eq_some_iff.1 h)]
    | unparsable h htext =>
      rw [h]
      dsimp only
      rw [fromUTF8?_eq_some_iff.2 rfl]
      exact mapError_eq_error_iff.2 ⟨_, htext, rfl⟩

theorem File.load_eq_ok_iff {disk : Disk} {args : Args} {file : File} :
    File.load disk args = .ok file ↔ Loads disk args file := by
  unfold File.load Loads
  cases args.config with
  | none => exact ⟨fun h => (Except.ok.inj h).symm, fun h => h ▸ rfl⟩
  | some path => exact mapError_eq_ok_iff.trans File.ofBytes_eq_ok_iff

theorem File.load_eq_error_iff {disk : Disk} {args : Args} {e : Error} :
    File.load disk args = .error e ↔ LoadLacks disk args e := by
  unfold File.load LoadLacks
  cases args.config with
  | none => simp
  | some path => simp [mapError_eq_error_iff, File.ofBytes_eq_error_iff]

/-! ## The settings -/

section Loading

variable {disk : Disk} {around : Surroundings} {draws : Draws} {args : Args}

theorem Settings.load_eq_ok_iff {s : Settings} :
    (Settings.load disk around draws args).2 = .ok s ↔
      ∃ file, Loads disk args file ∧ Settings.build around draws args file = .ok s := by
  simp only [← File.load_eq_ok_iff]
  unfold Settings.load
  cases File.load disk args <;> simp

theorem Settings.load_eq_error_iff {e : Error} :
    (Settings.load disk around draws args).2 = .error e ↔ LoadLacks disk args e ∨
      ∃ file, Loads disk args file ∧ Settings.build around draws args file = .error e := by
  simp only [← File.load_eq_ok_iff, ← File.load_eq_error_iff]
  unfold Settings.load
  cases File.load disk args <;> simp

end Loading

/-- There are settings just when the file loads and the layers meet every need. Else the error is
the file's or, in their order, that of the first need which is not met. The settings are those that
the layers make. -/
theorem Settings.load_layers (disk : Disk) (around : Surroundings) (draws : Draws) (args : Args) :
    ((∃ settings, (Settings.load disk around draws args).2 = .ok settings) ↔
      ∃ file, Loads disk args file ∧ ∀ need, Layers.Meets ⟨around, draws, args, file⟩ need) ∧
    (∀ e, (Settings.load disk around draws args).2 = .error e ↔
      LoadLacks disk args e ∨
        ∃ file, Loads disk args file ∧ Layers.FirstLacks ⟨around, draws, args, file⟩ e) ∧
    ∀ settings, (Settings.load disk around draws args).2 = .ok settings →
      ∃ file, Loads disk args file ∧ Layers.Makes ⟨around, draws, args, file⟩ settings := by
  let layers (file : File) : Layers := ⟨around, draws, args, file⟩
  refine ⟨?_, fun e => ?_, fun settings h => ?_⟩
  · calc (∃ settings, (Settings.load disk around draws args).2 = .ok settings)
      _ ↔ ∃ settings file, Loads disk args file ∧
          Settings.build around draws args file = .ok settings :=
        exists_congr fun settings => Settings.load_eq_ok_iff
      _ ↔ ∃ file, Loads disk args file ∧
          ∃ settings, Settings.build around draws args file = .ok settings := by
        rw [exists_comm]
        simp only [exists_and_left]
      _ ↔ _ := exists_congr fun file => and_congr_right fun _ => (layers file).exists_build_iff
  · refine Settings.load_eq_error_iff.trans (or_congr_right ?_)
    exact exists_congr fun file => and_congr_right fun _ => (layers file).build_eq_error_iff
  · obtain ⟨file, hfile, hbuild⟩ := Settings.load_eq_ok_iff.1 h
    exact ⟨file, hfile, (layers file).build_makes hbuild⟩

/-- Of much that is wrong, the first is reported. -/
example : (Settings.load (fun _ => .error .notText) {} ⟨0, 0, 0⟩
    { hostname := some " ", controlUrl := some "nowhere", apiUrl := some "" }).2 =
    .error .blankHostname := by
  rfl

end Tether.Config
