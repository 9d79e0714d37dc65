import Tether.Proofs.Config.Merging

/-!
What the file still decides of the settings that the arguments give. Two files that differ in
nothing else make the same settings or the same error, and the same log (`Settings.build_congr`),
with one exception: the variable that a file names for the API key is looked up before anything is
chosen. If it is not set, this is the error, also where the arguments give the key
(`Settings.build_unset`). So two such files make the same just when they name the same unset
variable, or neither names one (`Settings.load_eq_iff`), and an argument for the key does not take
the place of the file's entry (`Settings.load_ne`).
-/

namespace Tether.Config

open Tether.Direct

/-- The files differ at most in settings that the arguments give. -/
structure File.DifferIn (args : Args) (f g : File) : Prop where
  hostname : args.hostname = none → f.hostname = g.hostname
  controlUrl : args.controlUrl = none → f.controlUrl = g.controlUrl
  apiUrl : args.apiUrl = none → f.api.url = g.api.url
  apiKey : args.apiKey = none → f.api.keyEnv = g.api.keyEnv ∧ f.api.key = g.api.key
  clientId : args.clientId = none → f.api.clientId = g.api.clientId
  telemetry : args.telemetry = false → f.api.telemetry = g.api.telemetry
  stateDir : args.stateDir = none → f.stateDir = g.stateDir
  healthInterval : args.healthInterval = none → f.healthIntervalSecs = g.healthIntervalSecs
  keyRetry : args.keyRetry = none → f.keyRetrySecs = g.keyRetrySecs
  apiTimeout : args.apiTimeout = none → f.api.timeoutSecs = g.api.timeoutSecs
  livenessPort : args.livenessPort = none → f.livenessPort = g.livenessPort
  bindHost : args.bindHost = none → f.direct.bindHost = g.direct.bindHost
  forwards : args.forwards = [] → f.direct.forwards = g.direct.forwards

/-- The variable that an error is about, if it is about one that is not set. -/
def Error.variable? : Error → Option String
  | .unsetVariable name => some name
  | _ => none

/-- The variable that the file names for the API key, if it is not set. -/
def File.unsetKey? (file : File) (env : Environment) : Option String :=
  file.api.keyEnv.filter fun name => (env.get? name).isNone

variable {around : Surroundings} {draws : Draws} {args : Args} {f g : File}

/-! ## The key of the file -/

theorem File.unsetKey?_eq_some_iff {file : File} {env : Environment} {name : String} :
    file.unsetKey? env = some name ↔ file.api.keyEnv = some name ∧ env.get? name = none := by
  unfold File.unsetKey?
  rw [Option.filter_eq_some_iff, Option.isNone_iff_eq_none]

theorem File.apiKey_eq_error_iff {file : File} {env : Environment} {e : Error} :
    file.apiKey env = .error e ↔
      ∃ name, file.unsetKey? env = some name ∧ e = .unsetVariable name := by
  simp only [File.apiKey_eq_error, File.unsetKey?_eq_some_iff, and_assoc]

theorem File.exists_apiKey {file : File} {env : Environment} (h : file.unsetKey? env = none) :
    ∃ key, file.apiKey env = .ok key := by
  cases hkey : file.apiKey env with
  | ok key => exact ⟨key, rfl⟩
  | error e =>
    obtain ⟨name, hname, -⟩ := File.apiKey_eq_error_iff.1 hkey
    rw [h] at hname
    cases hname

/-! ## The first of two values -/

theorem orElse_congr {α : Type} {given : Option α} {x y : Option α} (h : given = none → x = y) :
    (given <|> x) = (given <|> y) := by
  cases given with
  | none => exact h rfl
  | some a => rfl

/-! ## One file for another -/

theorem File.DifferIn.apiKey_eq (h : f.DifferIn args g) (hn : args.apiKey = none)
    (env : Environment) : f.apiKey env = g.apiKey env := by
  obtain ⟨henv, hkey⟩ := h.apiKey hn
  unfold File.apiKey
  rw [henv, hkey]

theorem Settings.build_congr (h : f.DifferIn args g) (hf : f.unsetKey? around.env = none)
    (hg : g.unsetKey? around.env = none) :
    Settings.build around draws args f = Settings.build around draws args g := by
  obtain ⟨key, hkey⟩ := File.exists_apiKey hf
  obtain ⟨key', hkey'⟩ := File.exists_apiKey hg
  have hchosen : (args.apiKey <|> key) = (args.apiKey <|> key') := by
    refine orElse_congr fun hn => ?_
    have := h.apiKey_eq hn around.env
    rw [hkey, hkey'] at this
    exact Except.ok.inj this
  have htelemetry : (args.telemetry || f.api.telemetry.getD false) =
      (args.telemetry || g.api.telemetry.getD false) := by
    cases hn : args.telemetry with
    | false => rw [h.telemetry hn]
    | true => rfl
  unfold Settings.build
  rw [hkey, hkey', htelemetry, orElse_congr h.hostname, orElse_congr h.controlUrl,
    orElse_congr h.apiUrl, orElse_congr h.clientId, orElse_congr h.stateDir,
    orElse_congr h.healthInterval, orElse_congr h.keyRetry, orElse_congr h.apiTimeout,
    orElse_congr h.livenessPort, orElse_congr h.bindHost]
  simp only [bind, Except.bind, hchosen]
  by_cases hn : args.forwards = []
  · rw [h.forwards hn]
  · simp only [List.isEmpty_iff, hn, if_false]

theorem namingLog_congr (h : f.DifferIn args g)
    (heq : f.unsetKey? around.env = g.unsetKey? around.env) :
    namingLog around draws args f = namingLog around draws args g := by
  unfold namingLog
  cases hf : f.unsetKey? around.env with
  | none =>
    obtain ⟨key, hkey⟩ := File.exists_apiKey hf
    obtain ⟨key', hkey'⟩ := File.exists_apiKey (heq.symm.trans hf)
    rw [hkey, hkey', orElse_congr h.hostname]
    cases (args.hostname <|> g.hostname) <;> rfl
  | some name =>
    rw [File.apiKey_eq_error_iff.2 ⟨name, hf, rfl⟩,
      File.apiKey_eq_error_iff.2 ⟨name, heq.symm.trans hf, rfl⟩]

/-! ## Errors -/

theorem Layers.Lacks.no_variable {l : Layers} {need : Need} {e : Error} (h : l.Lacks need e)
    (hneed : need ≠ .keyVariable) : e.variable? = none := by
  cases need with
  | keyVariable => exact absurd rfl hneed
  | url use =>
    obtain ⟨-, rfl⟩ := h
    cases use <;> rfl
  | hostname =>
    obtain ⟨-, rfl⟩ := h
    rfl
  | apiKey =>
    obtain ⟨-, rfl⟩ := h
    rfl
  | soundUrl use =>
    obtain ⟨-, -, -, -, rfl⟩ := h
    rfl
  | healthInterval =>
    obtain ⟨-, rfl⟩ := h
    rfl
  | forwards =>
    obtain ⟨-, -, -, -, -, -, -, -, rfl⟩ := h
    rfl

/-- An error is about a variable just when the file names one that is not set. -/
theorem Settings.build_error {file : File} :
    ∀ e, Settings.build around draws args file = .error e →
      e.variable? = file.unsetKey? around.env := by
  intro e h
  let l : Layers := ⟨around, draws, args, file⟩
  obtain ⟨front, need, back, horder, hfront, -, hlacks⟩ := l.build_eq_error_iff.1 h
  cases front with
  | nil =>
    cases horder
    obtain ⟨name, hname, hunset, rfl⟩ := hlacks
    exact (File.unsetKey?_eq_some_iff.2 ⟨hname, hunset⟩).symm
  | cons first front =>
    -- the variable was looked at before, and only one need is about it
    obtain rfl : .keyVariable = first := List.head_eq_of_cons_eq horder
    have hneed : need ≠ .keyVariable := by
      rintro rfl
      have hmem : .keyVariable ∈ Need.order.tail := by
        rw [horder]
        exact List.mem_append_right front List.mem_cons_self
      simp [Need.order] at hmem
    rw [hlacks.no_variable hneed]
    refine (Option.eq_none_iff_forall_ne_some.2 fun name hname => ?_).symm
    obtain ⟨hname, hunset⟩ := File.unsetKey?_eq_some_iff.1 hname
    obtain ⟨value, hvalue⟩ := hfront .keyVariable List.mem_cons_self name hname
    rw [hunset] at hvalue
    cases hvalue

/-- The lookup of the key comes first, and the arguments do not spare it. -/
theorem Settings.build_unset {file : File} {name : String}
    (h : file.unsetKey? around.env = some name) :
    Settings.build around draws args file = .error (.unsetVariable name) := by
  unfold Settings.build
  rw [File.apiKey_eq_error_iff.2 ⟨name, h, rfl⟩]
  rfl

/-! ## Two files -/

theorem Settings.build_eq_iff (h : f.DifferIn args g) :
    Settings.build around draws args f = Settings.build around draws args g ↔
      f.unsetKey? around.env = g.unsetKey? around.env := by
  constructor
  · intro heq
    cases hf : f.unsetKey? around.env with
    | some name =>
      rw [Settings.build_unset hf] at heq
      exact Settings.build_error _ heq.symm
    | none =>
      cases hg : g.unsetKey? around.env with
      | none => rfl
      | some name =>
        rw [Settings.build_unset hg] at heq
        exact hf.symm.trans (Settings.build_error _ heq).symm
  · intro heq
    cases hf : f.unsetKey? around.env with
    | none => exact Settings.build_congr h hf (heq.symm.trans hf)
    | some name => rw [Settings.build_unset hf, Settings.build_unset (heq.symm.trans hf)]

/-- Files that differ only in what the arguments give make the same of it just when they name the
same unset variable for the key, or none. Then the log is the same too. -/
theorem Settings.load_eq_iff {disk disk' : Disk} (hf : File.load disk args = .ok f)
    (hg : File.load disk' args = .ok g) (h : f.DifferIn args g) :
    ((Settings.load disk around draws args).2 = (Settings.load disk' around draws args).2 ↔
        f.unsetKey? around.env = g.unsetKey? around.env) ∧
      (f.unsetKey? around.env = g.unsetKey? around.env →
        Settings.load disk around draws args = Settings.load disk' around draws args) := by
  unfold Settings.load
  rw [hf, hg]
  refine ⟨Settings.build_eq_iff h, fun heq => Prod.ext ?_ ((Settings.build_eq_iff h).2 heq)⟩
  exact congrArg (loadingLog args ++ ·) (namingLog_congr h heq)

/-- A disk with one text at every path. -/
def diskOf (text : String) : Disk := fun _ => .ok text.toUTF8.toList

/-- Arguments that give the key and a file. -/
def keyed : Args := {
  controlUrl := some "https://control.example.com"
  apiUrl := some "https://api.example.com"
  apiKey := some "secret"
  config := some "node.yaml" }

theorem exists_load {text : String} {file : File}
    (h : (File.load (diskOf text) keyed).toOption = some file) :
    File.load (diskOf text) keyed = .ok file := by
  cases hload : File.load (diskOf text) keyed with
  | error e =>
    rw [hload] at h
    cases h
  | ok file' =>
    rw [hload] at h
    exact congrArg _ (Option.some.inj h)

/-- A key in the file, and a variable that is set, count for nothing beside the argument. -/
theorem Settings.load_eq_iff_keyed :
    Settings.load (diskOf "api:\n  key_env: NODE_KEY\n") { env := [("NODE_KEY", "file")] } ⟨0, 0, 0⟩
        keyed =
      Settings.load (diskOf "api:\n  key: other\n") { env := [("NODE_KEY", "file")] } ⟨0, 0, 0⟩
        keyed := by
  have hf : File.load (diskOf "api:\n  key_env: NODE_KEY\n") keyed =
      .ok { api := { keyEnv := some "NODE_KEY" } } := exists_load (by decide +kernel)
  have hg : File.load (diskOf "api:\n  key: other\n") keyed =
      .ok { api := { key := some "other" } } := exists_load (by decide +kernel)
  refine (Settings.load_eq_iff hf hg ?_).2 (by decide +kernel)
  constructor <;> intro hn <;> first | rfl | cases hn

/-- A variable that is not set, named in the file, is an error also where the argument gives the
key. Without this entry of the file there are settings. -/
theorem Settings.load_ne : ∃ f g : File,
    File.load (diskOf "api:\n  key_env: NODE_KEY\n") keyed = .ok f ∧
      File.load (diskOf "") keyed = .ok g ∧ f.DifferIn keyed g ∧
      (Settings.load (diskOf "api:\n  key_env: NODE_KEY\n") {} ⟨0, 0, 0⟩ keyed).2 =
        .error (.unsetVariable "NODE_KEY") ∧
      ((Settings.load (diskOf "") {} ⟨0, 0, 0⟩ keyed).2.toOption.map (·.control.apiKey)) =
        some "secret" := by
  refine ⟨{ api := { keyEnv := some "NODE_KEY" } }, {}, exists_load (by decide +kernel),
    exists_load (by decide +kernel), ?_, ?_, by decide +kernel⟩
  · constructor <;> intro hn <;> first | rfl | cases hn
  · have hload : File.load (diskOf "api:\n  key_env: NODE_KEY\n") keyed =
        .ok { api := { keyEnv := some "NODE_KEY" } } := exists_load (by decide +kernel)
    unfold Settings.load
    rw [hload]
    exact Settings.build_unset (by decide +kernel)

end Tether.Config
