import Tether.Agent.Probe
import Tether.Proofs.Secrecy.Naming
import Tether.Proofs.Secrecy.Origin

/-!
Keys influence nothing that can be observed. With two scripts whose calls take as long and fail
alike, whatever keys they bring, a supervisor does the same at the same times, and so does a bench
on which sessions are built or started by hand: it publishes the same states and slots, logs the
same, answers the same, and all texts for diagnostics are the same. Only the keys of the sessions
differ, and each is the key of the call that its session was built with: `credentials_unseen`.
-/

namespace Tether.Sim

open Tether.Agent Tether.Control Tether.Overlay

variable {P : String → String → Prop}

/-- Two networks look the same: all of them is equal but the keys, and so are the texts that
diagnostics show of them, of their sessions, and of the options of the sessions. -/
structure Network.LooksLike (n n' : Network) : Prop where
  veil : n'.veil = n.veil
  debugText : n'.debugText = n.debugText
  sessionText : ∀ id, (n'.session? id).map (sessionDebugText id) =
    (n.session? id).map (sessionDebugText id)
  optionsText : n'.options.map Options.debugText = n.options.map Options.debugText
  optionsBlock : n'.options.map Options.debugBlock = n.options.map Options.debugBlock

theorem Network.Twin.looksLike {n n' : Network} (h : n.Twin P n') : n.LooksLike n' where
  veil := h.veil
  debugText := h.told fun n => by
    unfold Network.debugText Network.veil
    rw [List.length_map]
  sessionText id := by
    refine h.told (f := fun n => (n.session? id).map (sessionDebugText id)) fun n => ?_
    rw [session?_veil]
    cases n.session? id <;> rfl
  optionsText := h.told (f := fun n => n.options.map Options.debugText) fun n => by
    unfold Network.options Network.veil
    rw [List.map_map, List.map_map, List.map_map]
    rfl
  optionsBlock := h.told (f := fun n => n.options.map Options.debugBlock) fun n => by
    unfold Network.options Network.veil
    rw [List.map_map, List.map_map, List.map_map]
    rfl

/-- Two benches look the same. -/
structure Bench.LooksLike (b b' : Bench) : Prop where
  net : b.net.LooksLike b'.net
  calls : b'.source.times = b.source.times
  streams : b'.streams = b.streams
  services : b'.services = b.services
  servers : b'.servers = b.servers
  now : b'.now = b.now
  log : b'.log = b.log

theorem Bench.Twin.looksLike {b b' : Bench} (h : b.Twin P b') : b.LooksLike b' := by
  obtain ⟨net, source, rfl, hn, hs⟩ := h
  exact ⟨hn.looksLike, hs.times, rfl, rfl, rfl, rfl, rfl⟩

end Tether.Sim

namespace Tether.Agent

open Tether.Control Tether.Overlay Tether.Sim

/-- Two supervisors look the same: what they publish and hold, when they act next, their records,
what a subscriber is told, and what comes of a probe, of a close from outside, of a wait for the
task and of a shutdown. -/
structure Supervisor.LooksLike (s s' : Supervisor) : Prop where
  net : s.net.LooksLike s'.net
  calls : s'.source.times = s.source.times
  state : s'.state = s.state
  slot : s'.slot = s.slot
  generation : s'.generation = s.generation
  current : s'.current = s.current
  pending : s'.pending = s.pending
  due : s'.due? = s.due?
  now : s'.now = s.now
  history : s'.history = s.history
  log : s'.log = s.log
  states : ∀ events, s'.statesSince events = s.statesSince events
  slots : ∀ events, s'.slotsSince events = s.slotsSince events
  probe : ∀ port, s'.probe port = s.probe port
  close : ∀ session, (s'.closeOutside session).2 = (s.closeOutside session).2
  wait : ∀ reported time, (Handle.wait ⟨s', reported⟩ time).map Prod.snd =
    (Handle.wait ⟨s, reported⟩ time).map Prod.snd
  shutdown : ∀ reported, (Handle.shutdown ⟨s', reported⟩).isSome =
    (Handle.shutdown ⟨s, reported⟩).isSome

namespace Supervisor.Twin

variable {P : String → String → Prop} {s s' : Supervisor}

theorem probe (h : s.Twin P s') (port : UInt16) : s'.probe port = s.probe port := by
  obtain ⟨net, source, phase, rfl, hn, -, -⟩ := h
  unfold Supervisor.probe
  dsimp only
  split
  · rfl
  · rw [hn.isListening]

theorem wait (h : s.Twin P s') (reported : Bool) (time : Nat) :
    (Handle.wait ⟨s', reported⟩ time).map Prod.snd =
      (Handle.wait ⟨s, reported⟩ time).map Prod.snd := by
  obtain ⟨net, source, phase, rfl, -, -, hp⟩ := h
  unfold Handle.wait
  dsimp only
  generalize s.phase = phase₀ at hp
  cases hp with
  | crashed => cases reported <;> rfl
  | watching _ | building _ | stopped => rfl

theorem shutdown (h : s.Twin P s') (reported : Bool) :
    (Handle.shutdown ⟨s', reported⟩).isSome = (Handle.shutdown ⟨s, reported⟩).isSome := by
  obtain ⟨net, source, phase, rfl, -, -, hp⟩ := h
  unfold Handle.shutdown
  dsimp only
  generalize s.phase = phase₀ at hp
  cases hp with
  | crashed => cases reported <;> rfl
  | watching _ | building _ | stopped => rfl

theorem looksLike (h : s.Twin P s') : s.LooksLike s' := by
  have hdue := h.due
  have hprobe := h.probe
  have hclose := fun id => (h.closeOutside id).2
  have hwait := h.wait
  have hshutdown := h.shutdown
  obtain ⟨net, source, phase, rfl, hn, hs, -⟩ := h
  exact ⟨hn.looksLike, hs.times, rfl, rfl, rfl, rfl, rfl, hdue, rfl, rfl, rfl, fun _ => rfl,
    fun _ => rfl, hprobe, hclose, hwait, hshutdown⟩

end Supervisor.Twin

/-- Whatever keys a source brings, as long as its calls take as long and fail alike, a launch comes
to the same, and after all steps the supervisor looks the same; one ledger accounts for the keys of
the sessions, whichever they are. On a bench, whatever is done, sessions started by hand among it,
the same is told and the bench looks the same, and the same sessions have the key that they were
given or that of the same call. -/
theorem credentials_unseen (replies replies' : List Reply)
    (h : (Source.ofScript replies).Alike (fun _ _ => True) (.ofScript replies')) :
    let keys := Source.ofScript replies
    let keys' := Source.ofScript replies'
    (∀ call, (keys'.result call).map Key.debugText = (keys.result call).map Key.debugText) ∧
    (∀ (l : Launch) (steps : List Step),
      let l₁ : Launch := { l with replies := replies }
      let l₂ : Launch := { l with replies := replies' }
      l₂.start.2 = l₁.start.2 ∧ (l₁.run steps).LooksLike (l₂.run steps) ∧
        ∃ k : Ledger, k.Valid keys (l₁.run steps).net ∧ k.Valid keys' (l₂.run steps).net) ∧
    ∀ (b : Bench) (actions : List Action),
      let b₁ : Bench := { b with source := keys }
      let b₂ : Bench := { b with source := keys' }
      (b₂.play actions).2 = (b₁.play actions).2 ∧
        (b₁.play actions).1.LooksLike (b₂.play actions).1 ∧
          ∃ more more',
            (b₁.play actions).1.net.options = b.net.options ++ more ∧
            (b₂.play actions).1.net.options = b.net.options ++ more' ∧
            List.Forall₂ (Bench.Came keys) (b₁.origins actions) more ∧
            List.Forall₂ (Bench.Came keys') (b₁.origins actions) more' := by
  intro keys keys'
  refine ⟨?_, ?_, ?_⟩
  · intro call
    have hagree := h.result call
    show (keys'.result call).map _ = (keys.result call).map _
    generalize keys.result call = r, keys'.result call = r' at hagree ⊢
    cases hagree <;> rfl
  · intro l steps l₁ l₂
    obtain ⟨htwin, hstart⟩ := twin_run l₁ h steps
    refine ⟨hstart, htwin.looksLike, ?_⟩
    let names : Launch := { l with replies := replies.map Reply.named }
    obtain ⟨k, -, hbooks⟩ := (Moment.reaches_run names steps).books (Moment.books_first names)
    have haccounts : ∀ script : List Reply,
        (Source.ofScript replies).Alike (fun _ _ => True) (.ofScript script) →
        k.Valid (.ofScript script) (Launch.run { l with replies := script } steps).net := by
      intro script halike
      obtain ⟨⟨net, source, phase, he, hnet, -, -⟩, -⟩ :=
        twin_run names (Named.alike halike) steps
      refine Named.valid halike hbooks.valid ?_
      rw [show Launch.run { l with replies := script } steps = _ from he]
      exact hnet
    exact ⟨k, haccounts replies (.refl _), haccounts replies' h⟩
  · intro b actions b₁ b₂
    have hreflexive : ∀ key : String, (fun _ _ : String => True) key key := fun _ => trivial
    have htwin : b₁.Twin (fun _ _ => True) b₂ := by
      refine ⟨b.net, keys', rfl, ⟨rfl, ?_⟩, h⟩
      exact List.forall₂_same.2 fun _ _ => trivial
    obtain ⟨hlast, hanswers⟩ := htwin.play hreflexive actions
    obtain ⟨more, ho, hcame⟩ :=
      Bench.came_play (show b₁.source.script = keys.script from rfl) actions
    obtain ⟨more', ho', hcame'⟩ :=
      Bench.came_play (show b₂.source.script = keys'.script from rfl) actions
    rw [htwin.origins hreflexive] at hcame'
    exact ⟨hanswers, hlast.looksLike, more, more', ho, ho', hcame, hcame'⟩

/-- Two plain launches get one key each, and nothing else tells them apart. -/
theorem credentials_unseen_plain :
    let script : List Reply := [⟨0, .key "a"⟩]
    let script' : List Reply := [⟨0, .key "b"⟩]
    let s := Launch.run { Launch.plain with replies := script } []
    let s' := Launch.run { Launch.plain with replies := script' } []
    (Source.ofScript script).Alike (fun _ _ => True) (.ofScript script') ∧
      s.net.keys = ["a"] ∧ s'.net.keys = ["b"] ∧ s.LooksLike s' := by
  intro script script' s s'
  let a : Key := ⟨"a", by decide⟩
  let b : Key := ⟨"b", by decide⟩
  have ha : Key.ofText "a" = .ok a := Key.ofText_eq_ok_iff.2 rfl
  have hb : Key.ofText "b" = .ok b := Key.ofText_eq_ok_iff.2 rfl
  have halike : (Source.ofScript script).Alike (fun _ _ => True) (.ofScript script') := by
    have hfirst : Agree (fun _ _ => True) (Key.ofText "a") (Key.ofText "b") := by
      rw [ha, hb]
      exact .ok trivial
    refine ⟨rfl, fun call => ?_, fun call => ?_⟩
    · obtain _ | _ | call := call <;> rfl
    · obtain _ | _ | call := call
      · exact hfirst
      · exact hfirst
      · exact .ok trivial
  have hkeys : ∀ key : Key,
      (Launch.run { Launch.plain with replies := [⟨0, .key key.text⟩] } []).net.keys =
        [key.text] := by
    intro key
    have hresult : (Source.ofScript [⟨0, .key key.text⟩]).result 1 = .ok key :=
      Key.ofText_eq_ok_iff.2 rfl
    unfold Launch.run Launch.start Supervisor.start
    rw [Source.obtain_of_result (s := .ofScript [⟨0, .key key.text⟩]) hresult
      (by exact Nat.zero_le _)]
    show (Supervisor.enter _).net.keys = _
    unfold Supervisor.enter
    dsimp only
    split <;> rfl
  obtain ⟨-, hruns, -⟩ := credentials_unseen script script' halike
  exact ⟨halike, hkeys a, hkeys b, (hruns .plain []).2.1⟩

end Tether.Agent
