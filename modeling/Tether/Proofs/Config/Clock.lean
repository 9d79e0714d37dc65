import Tether.Proofs.Config.Starting
import Tether.Proofs.Supervisor.Timer

/-!
The reach of the clock. What loads as settings has a health interval of whole seconds, and nothing
bounds their number. Whether the supervisor can set its timer is then a matter of that number and of
the time at which it sets it, where it goes to work and behind each replacement: its task crashes
with the first of its builds that ends so late that the clock does not reach the next check
(`Settings.crashes_iff`). Only in the second half of the clock could a check that passes set the
timer out of reach too; nothing is said about the timer there.
-/

namespace Tether.Config

open Tether.Agent Tether.Control Tether.Time

/-- Settings that load have a health interval of whole seconds, and not of none. -/
theorem Settings.healthInterval_ofSeconds {disk : Disk} {around : Surroundings} {draws : Draws}
    {args : Args} {settings : Settings}
    (h : (Settings.load disk around draws args).2 = .ok settings) :
    ∃ n : UInt64, n ≠ 0 ∧ settings.agent.healthInterval = .ofSeconds n.toNat := by
  obtain ⟨file, -, hbuild⟩ := Settings.load_eq_ok_iff.1 h
  let l : Layers := ⟨around, draws, args, file⟩
  have hnonzero : l.healthInterval.nanos ≠ 0 := (l.build_eq_ok_iff.1 hbuild).1 .healthInterval
  have hmakes : settings.agent.healthInterval = l.healthInterval :=
    (l.build_makes hbuild).healthInterval
  have hseconds : ∃ n : UInt64, l.healthInterval = .ofSeconds n.toNat := by
    unfold Layers.healthInterval Layers.span?
    cases topmost [l.args.healthInterval, l.file.healthIntervalSecs] with
    | none => exact ⟨5, rfl⟩
    | some n => exact ⟨n, rfl⟩
  obtain ⟨n, hn⟩ := hseconds
  refine ⟨n, ?_, hmakes.trans hn⟩
  rintro rfl
  rw [hn] at hnonzero
  exact hnonzero rfl

/-- What loads passes the agent's own checks. -/
theorem Settings.validate_of_load {disk : Disk} {around : Surroundings} {draws : Draws}
    {args : Args} {settings : Settings}
    (h : (Settings.load disk around draws args).2 = .ok settings) :
    settings.agent.validate = .ok () := by
  obtain ⟨file, -, hbuild⟩ := Settings.load_eq_ok_iff.1 h
  let l : Layers := ⟨around, draws, args, file⟩
  have hmeets : ∀ need, l.Meets need := (l.build_eq_ok_iff.1 hbuild).1
  have hmakes : l.Makes settings := l.build_makes hbuild
  refine settings.agent.validate_eq_ok_iff.2 ⟨?_, ?_, ?_⟩
  · rw [hmakes.hostname]
    exact hmeets .hostname
  · exact (hmeets (.soundUrl .control) _ hmakes.controlUrl).not_isBlank
  · rw [Bool.eq_false_iff, ne_eq, Span.isZero_iff, hmakes.healthInterval]
    exact hmeets .healthInterval

/-- Nothing bounds the health interval: where settings load, they load with any other number of
seconds but zero. -/
theorem Settings.load_interval {disk : Disk} {around : Surroundings} {draws : Draws}
    {args : Args} {settings : Settings}
    (h : (Settings.load disk around draws args).2 = .ok settings) {n : UInt64} (hn : n ≠ 0) :
    (Settings.load disk around draws { args with healthInterval := some n }).2 =
      .ok { settings with
        agent := { settings.agent with healthInterval := .ofSeconds n.toNat } } := by
  obtain ⟨file, hfile, hbuild⟩ := Settings.load_eq_ok_iff.1 h
  refine Settings.load_eq_ok_iff.2 ⟨file, hfile, ?_⟩
  let l : Layers := ⟨around, draws, args, file⟩
  let l' : Layers := ⟨around, draws, { args with healthInterval := some n }, file⟩
  obtain ⟨hmeets, forwards, hforwards, rfl⟩ := l.build_eq_ok_iff.1 hbuild
  have hurl (use : UrlUse) : l'.url? use = l.url? use := by cases use <;> rfl
  refine l'.build_eq_ok_iff.2 ⟨fun need => ?_, forwards, hforwards, rfl⟩
  cases need with
  | healthInterval =>
    have hnat : n.toNat ≠ 0 := fun hzero => hn (UInt64.toNat_inj.1 hzero)
    show n.toNat * 1000000000 ≠ 0
    omega
  | keyVariable => exact hmeets .keyVariable
  | url use =>
    show ∃ value, l'.url? use = some value
    rw [hurl]
    exact hmeets (.url use)
  | hostname => exact hmeets .hostname
  | apiKey => exact hmeets .apiKey
  | soundUrl use =>
    show ∀ value, l'.url? use = some value → IsHttpUrl around.domains value
    rw [hurl]
    exact hmeets (.soundUrl use)
  | forwards => exact hmeets .forwards

/-- Settings that load are sound to the agent, and their health interval is of whole seconds. Their
supervisor can set its timer just where the clock reaches that far. So the task has crashed with the
start just when the clock did not reach the first check, and later, in the first half of the clock,
just when it did not reach the next check from the end of some build on record; while the task works,
it waits for no check that the clock does not reach. Behind its crash all that was published stays as
it is until the supervisor is shut down. -/
theorem Settings.crashes_iff {disk : Disk} {around : Surroundings} {draws : Draws}
    {args : Args} {settings : Settings}
    (h : (Settings.load disk around draws args).2 = .ok settings) :
    settings.agent.validate = .ok () ∧
    ∃ n : UInt64, n ≠ 0 ∧ settings.agent.healthInterval = .ofSeconds n.toNat ∧
      (∀ now, settings.agent.setup.firstCheck? now =
        if now / 1000 + n.toNat < clockSeconds then some (.ofMillis now + .ofSeconds n.toNat)
        else none) ∧
      ∀ l : Launch, l.setup = settings.agent.setup → l.start.2 = .running →
        (l.start.1.isCrashed = true ↔ clockSeconds ≤ l.start.1.now / 1000 + n.toNat) ∧
        ∀ steps, Step.shutdown ∉ steps → let s := l.run steps
          (2 * s.now < clockSeconds * 1000 →
            (s.isCrashed = true ↔
              ∃ x ∈ s.history, x.2.concludes = true ∧ clockSeconds ≤ x.1 / 1000 + n.toNat) ∧
            ∀ due, s.phase = .watching due → due.seconds < clockSeconds) ∧
          (s.isCrashed = true → ∀ more, Step.shutdown ∉ more →
            s.Halted (l.run (steps ++ more))) := by
  obtain ⟨n, hn, hinterval⟩ := Settings.healthInterval_ofSeconds h
  have hnat : n.toNat ≠ 0 := fun hzero => hn (UInt64.toNat_inj.1 hzero)
  have hfirst := settings.agent.setup.firstCheck_ofSeconds hinterval hnat
  have hnone (now : Nat) : settings.agent.setup.firstCheck? now = none ↔
      clockSeconds ≤ now / 1000 + n.toNat := by
    rw [hfirst]
    simp
  refine ⟨Settings.validate_of_load h, n, hn, hinterval, hfirst, ?_⟩
  intro l hsetup hup
  constructor
  · rw [isCrashed_start hup, hsetup, hnone]
  · intro steps hs s
    refine ⟨fun hc => ⟨?_, fun due hp => seconds_lt_of_watching hup hs hp hc⟩,
      fun hc more hmore => halted_run hc hmore⟩
    have hreckons : s.isCrashed = true ↔ s.setup.Overruns s.history := reckons_run hup hs
    rw [hreckons, setup_run hup, hsetup]
    simp only [Setup.Overruns, hnone]

/-- Arguments that are all in order. -/
def soundArgs : Args where
  controlUrl := some "https://control.example.com"
  apiUrl := some "https://api.example.com"
  apiKey := some "secret"

/-- They load with any number of seconds but zero. -/
theorem load_soundArgs {n : UInt64} (hn : n ≠ 0) : ∃ settings,
    (Settings.load (fun _ => .error .notText) {} ⟨0, 0, 0⟩
      { soundArgs with healthInterval := some n }).2 = .ok settings ∧
    settings.agent.healthInterval = .ofSeconds n.toNat := by
  obtain ⟨settings, hload, -⟩ := exists_of_toOption (f := fun _ => ())
    (show (Settings.load (fun _ => .error .notText) {} ⟨0, 0, 0⟩ soundArgs).2.toOption.map _ =
      some () by decide +kernel)
  exact ⟨_, Settings.load_interval hload hn, rfl⟩

/-- With an interval that the clock just holds a supervisor goes to work in the first second; from
the second one on the next check is out of its reach. -/
theorem Settings.crashes_iff_longest : ∃ settings,
    (Settings.load (fun _ => .error .notText) {} ⟨0, 0, 0⟩
      { soundArgs with healthInterval := some 9223372036854775807 }).2 = .ok settings ∧
    (Launch.plainWith settings.agent.setup).start.1.isCrashed = false ∧
    (settings.agent.setup.firstCheck? 999).isSome = true ∧
      settings.agent.setup.firstCheck? 1000 = none := by
  obtain ⟨settings, hload, hagent⟩ := load_soundArgs (n := 9223372036854775807) (by decide)
  obtain ⟨hup, hnow, -, -⟩ := start_plainWith settings.agent.setup
  obtain ⟨-, n, -, hinterval, hfirst, hruns⟩ := Settings.crashes_iff hload
  have hn : n.toNat = 9223372036854775807 := by
    simpa using congrArg Span.seconds (hinterval.symm.trans hagent)
  obtain ⟨hstart, -⟩ := hruns (.plainWith settings.agent.setup) rfl hup
  rw [hn] at hfirst
  rw [hn, hnow] at hstart
  refine ⟨settings, hload, ?_, ?_, ?_⟩
  · rw [← Bool.not_eq_true, hstart]
    decide
  · rw [hfirst]
    decide
  · rw [hfirst]
    decide

/-- Settings load, and the agent takes them, with an interval that the clock does not hold: the
supervisor comes up with an open session, and its task has crashed. -/
theorem Settings.first_check_unreachable : ∃ settings,
    (Settings.load (fun _ => .error .notText) {} ⟨0, 0, 0⟩
      { soundArgs with healthInterval := some 9223372036854775808 }).2 = .ok settings ∧
    settings.agent.validate = .ok () ∧ settings.agent.setup.firstCheck? 0 = none ∧
    ∃ l : Launch, l.setup = settings.agent.setup ∧ l.start.2 = .running ∧
      l.start.1.isCrashed = true ∧ l.start.1.net.isOpen 1 = true := by
  obtain ⟨settings, hload, hagent⟩ := load_soundArgs (n := 9223372036854775808) (by decide)
  have hfirst : settings.agent.setup.firstCheck? 0 = none := by
    rw [settings.agent.setup.firstCheck_ofSeconds hagent (by decide)]
    decide
  obtain ⟨hup, hnow, -, hopen⟩ := start_plainWith settings.agent.setup
  refine ⟨settings, hload, Settings.validate_of_load hload, hfirst,
    .plainWith settings.agent.setup, rfl, hup, ?_, hopen⟩
  rw [isCrashed_start hup, hnow]
  exact hfirst

end Tether.Config
