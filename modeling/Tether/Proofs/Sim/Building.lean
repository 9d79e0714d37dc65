import Tether.Proofs.Keys.Ledger
import Tether.Proofs.Sim.Calm
import Tether.Proofs.Supervisor.Run

/-!
A build leaves one open session with everything in place, or none. With a key at hand it uses up a
failure that was scripted, or starts a session and closes it again because nobody can listen on it,
or starts one, gives it the relay as its fallback and listens on its liveness port (`Finishes`).
While it waits for the key it touches no session, so one that is given up leaves none behind; and
whatever it comes to, the sessions that were there before stay as they are: `build_whole`.
-/

namespace Tether.Sim.Network

open Tether.Agent Tether.Control Tether.Overlay

theorem modify_concat {α : Type} (l : List α) (a : α) (f : α → α) :
    (l ++ [a]).modify l.length f = l ++ [f a] := by
  induction l with
  | nil => rfl
  | cons x l ih => simp [ih]

theorem sessions_modifyLast {n : Network} {sessions : List Session} {s : Session}
    (h : n.sessions = sessions ++ [s]) (f : Session → Session) :
    (n.modifySession (sessions.length + 1) f).sessions = sessions ++ [f s] := by
  show n.sessions.modify sessions.length f = _
  rw [h, modify_concat]

end Tether.Sim.Network

namespace Tether.Agent

open Tether.Control Tether.Overlay Tether.Sim

/-! ## With a key at hand -/

/-- What an asker is told of a build. -/
def Built.result : Built → Except Error Nat
  | .notStarted cause => .error (.sessionStart cause)
  | .halfBuilt _ cause => .error (.liveness cause)
  | .ready session _ => .ok session

/-- What a build with a key does to the sessions, listeners and faults of a network, and what it
tells. -/
inductive Finishes (settings : Settings) (key : Key) (n n' : Network) : Except Error Nat → Prop
  /-- A start failure was pending, and one is used up. -/
  | notStarted (pending : n.startFailures = n'.startFailures + 1)
      (failListen : n'.failListen = n.failListen) (sessions : n'.sessions = n.sessions)
      (heard : n'.heard = n.heard) :
      Finishes settings key n n' (.error (.sessionStart (.start "mock start failure")))
  /-- Listening fails, and the session is closed. -/
  | closed (pending : n.startFailures = 0) (startFailures : n'.startFailures = 0)
      (fails : n.failListen = true) (failListen : n'.failListen = true)
      (sessions : n'.sessions = n.sessions ++ [⟨settings.options key, true, some .relay, []⟩])
      (heard : n'.heard = n.heard) :
      Finishes settings key n n'
        (.error (.liveness (.listen settings.livenessPort "mock listen failure")))
  /-- The session is open, and its liveness port has a listener. -/
  | opened (pending : n.startFailures = 0) (startFailures : n'.startFailures = 0)
      (fails : n.failListen = false) (failListen : n'.failListen = false)
      (sessions : n'.sessions = n.sessions ++
        [⟨settings.options key, false, some .relay,
          [(settings.livenessPort, n.heard.length)]⟩])
      (heard : n'.heard = n.heard ++ [(settings.livenessPort, true)]) :
      Finishes settings key n n' (.ok (n.sessions.length + 1))

section Build

variable {n net net' : Network} {settings : Settings} {key : Key} {id : Nat}

theorem build_halfBuilt {cause : Overlay.Error}
    (hs : n.start (settings.options key) = (net, .ok id))
    (hl : (net.setFallback id .relay).listen id settings.livenessPort = (net', .error cause)) :
    build n settings key = ((net'.close id).1, .halfBuilt id cause) := by
  unfold build
  rw [hs]
  dsimp only
  rw [hl]

theorem build_listening {listener : Nat}
    (hs : n.start (settings.options key) = (net, .ok id))
    (hl : (net.setFallback id .relay).listen id settings.livenessPort = (net', .ok listener)) :
    build n settings key = (net', .ready id listener) := by
  unfold build
  rw [hs]
  dsimp only
  rw [hl]

end Build

theorem finishes_build (n : Network) (settings : Settings) (key : Key) :
    Finishes settings key n (build n settings key).1 (build n settings key).2.result := by
  cases hpending : n.startFailures with
  | succ k =>
    have hbuild : build n settings key =
        ({ n with startFailures := k }, .notStarted (.start "mock start failure")) := by
      unfold build Network.start
      simp only [hpending]
    rw [hbuild]
    exact .notStarted hpending rfl rfl rfl
  | zero =>
    let bare : Session := ⟨settings.options key, false, none, []⟩
    let id := n.sessions.length + 1
    let started : Network := { n with sessions := n.sessions ++ [bare] }
    let equipped := started.setFallback id .relay
    have hstart : n.start (settings.options key) = (started, .ok id) := by
      unfold Network.start
      split
      · rename_i k hk
        rw [hpending] at hk
        cases hk
      · rfl
    have hsessions : equipped.sessions =
        n.sessions ++ [⟨settings.options key, false, some .relay, []⟩] :=
      Network.sessions_modifyLast (n := started) (s := bare) rfl _
    have hopen : equipped.isOpen id = true := by
      rw [Network.isOpen_append hsessions, if_pos rfl]
      rfl
    cases hfails : n.failListen with
    | true =>
      have hheard : equipped.listen id settings.livenessPort =
          (equipped, .error (.listen settings.livenessPort "mock listen failure")) := by
        unfold Network.listen
        rw [hopen, if_neg (by decide), if_pos (show equipped.failListen = true from hfails)]
      have hclose : (equipped.close id).1 = equipped.modifySession id Session.close := by
        unfold Network.close
        rw [if_pos hopen]
      rw [build_halfBuilt hstart hheard, hclose]
      refine .closed hpending hpending hfails hfails ?_ rfl
      rw [Network.sessions_modifyLast hsessions]
      rfl
    | false =>
      have hheard : equipped.listen id settings.livenessPort =
          ({ equipped.modifySession id
              (·.assign settings.livenessPort equipped.listeners.length) with
              listeners := equipped.listeners ++ [⟨settings.livenessPort, [], true⟩] },
            .ok equipped.listeners.length) := by
        unfold Network.listen
        rw [hopen, if_neg (by decide),
          if_neg (by rw [show equipped.failListen = false from hfails]; decide)]
        rfl
      rw [build_listening hstart hheard]
      refine .opened hpending hpending hfails hfails ?_ ?_
      · show (equipped.modifySession id (·.assign _ equipped.listeners.length)).sessions = _
        rw [Network.sessions_modifyLast hsessions, Network.heard, List.length_map]
        rfl
      · show (equipped.listeners ++ [_]).map _ = _
        rw [List.map_append]
        rfl

theorem Finishes.sessions {settings : Settings} {key : Key} {n n' : Network}
    {r : Except Error Nat} (h : Finishes settings key n n' r) :
    ∃ more, n'.sessions = n.sessions ++ more := by
  cases h with
  | notStarted _ _ hs _ => exact ⟨[], by rw [hs, List.append_nil]⟩
  | closed _ _ _ _ hs _ => exact ⟨_, hs⟩
  | opened _ _ _ _ hs _ => exact ⟨_, hs⟩

theorem Finishes.heard {settings : Settings} {key : Key} {n n' : Network}
    {r : Except Error Nat} (h : Finishes settings key n n' r) :
    ∃ more, n'.heard = n.heard ++ more := by
  cases h with
  | notStarted _ _ _ hh => exact ⟨[], by rw [hh, List.append_nil]⟩
  | closed _ _ _ _ _ hh => exact ⟨[], by rw [hh, List.append_nil]⟩
  | opened _ _ _ _ _ hh => exact ⟨_, hh⟩

/-- What goes on before and behind the end of a build does not count. -/
theorem Finishes.calm {settings : Settings} {key : Key} {n₀ n n' n₁ : Network}
    {r : Except Error Nat} (h : Finishes settings key n n' r) (h₀ : n₀.Calm n) (h₁ : n'.Calm n₁) :
    Finishes settings key n₀ n₁ r := by
  have hlength : n₀.heard.length = n.heard.length := by rw [h₀.heard]
  have hcount : n₀.sessions.length = n.sessions.length := by rw [h₀.sessions]
  cases h with
  | notStarted hp hf hs hh =>
    refine .notStarted ?_ ?_ ?_ ?_
    · rw [← h₀.startFailures, h₁.startFailures, hp]
    · rw [h₁.failListen, hf, h₀.failListen]
    · rw [h₁.sessions, hs, h₀.sessions]
    · rw [h₁.heard, hh, h₀.heard]
  | closed hp hp' hf hf' hs hh =>
    refine .closed ?_ ?_ ?_ ?_ ?_ ?_
    · rw [← h₀.startFailures, hp]
    · rw [h₁.startFailures, hp']
    · rw [← h₀.failListen, hf]
    · rw [h₁.failListen, hf']
    · rw [h₁.sessions, hs, h₀.sessions]
    · rw [h₁.heard, hh, h₀.heard]
  | opened hp hp' hf hf' hs hh =>
    rw [← hcount]
    refine .opened ?_ ?_ ?_ ?_ ?_ ?_
    · rw [← h₀.startFailures, hp]
    · rw [h₁.startFailures, hp']
    · rw [← h₀.failListen, hf]
    · rw [h₁.failListen, hf']
    · rw [h₁.sessions, hs, h₀.sessions, hlength]
    · rw [h₁.heard, hh, h₀.heard]

end Tether.Agent

namespace Tether.Sim.Bench

open Tether.Agent Tether.Control

/-! ## On a bench -/

/-- What a build on a bench comes to: nothing at all if it is given up, else the end of a build with
the key of its one call that brought one. -/
def Whole (b b' : Bench) : Option (Except Agent.Error Nat) → Prop
  | none => b.net.Calm b'.net
  | some r => ∃ key, b.source.result b'.source.calls = .ok key ∧
      b.source.granted b'.source.calls =
        b.source.granted b.source.calls ++ [b'.source.calls] ∧
      Finishes b.settings key b.net b'.net r

theorem Whole.kept {b b' : Bench} {o : Option (Except Agent.Error Nat)} (h : b.Whole b' o) :
    (∃ more, b'.net.sessions = b.net.sessions ++ more) ∧
      ∃ more, b'.net.heard = b.net.heard ++ more := by
  cases o with
  | none =>
    have hcalm : b.net.Calm b'.net := h
    exact ⟨⟨[], by rw [hcalm.sessions, List.append_nil]⟩, [], by rw [hcalm.heard, List.append_nil]⟩
  | some r =>
    obtain ⟨key, -, -, hf⟩ := h
    exact ⟨hf.sessions, hf.heard⟩

theorem whole_build (b : Bench) (deadline : Nat) :
    b.Whole (b.build deadline).1 (b.build deadline).2 := by
  have hrun := (Pursuit.behind_obtain rfl (.refl b.source b.source.calls) b.retry b.now
    (b.now + deadline)).2
  unfold Bench.build
  dsimp only
  generalize b.source.obtain b.retry b.now (b.now + deadline) = run at hrun ⊢
  obtain ⟨source, progress, now, log⟩ := run
  -- while the key is waited for the bench runs on
  have hwaited := calm_advance { b with source := source, log := b.log ++ log } (now - b.now)
  generalize advance { b with source := source, log := b.log ++ log } (now - b.now) = waited
    at hwaited ⊢
  have hsource : waited.source = source := hwaited.source
  have hsettings : waited.settings = b.settings := hwaited.settings
  have hnet : b.net.Calm waited.net := hwaited.net
  cases progress with
  | pursuing p => exact hnet
  | got key =>
    have hawaits : b.source.Awaits b.source.calls waited.source.calls (.ok key) := by
      rw [hsource]
      exact hrun
    have hresult : b.source.result waited.source.calls = .ok key := by
      obtain ⟨n, -, -, hr⟩ := hawaits
      exact hr
    have hfinish := finishes_build waited.net waited.settings key
    have hwhole : ∀ {done : Bench} {r : Except Agent.Error Nat}, done.source = waited.source →
        Finishes waited.settings key waited.net done.net r → b.Whole done (some r) := by
      intro done r hdone hr
      refine ⟨key, by rw [hdone]; exact hresult, by rw [hdone]; exact hawaits.granted_eq, ?_⟩
      rw [← hsettings]
      exact hr.calm hnet (.refl _)
    dsimp only
    generalize Agent.build waited.net waited.settings key = built at hfinish ⊢
    obtain ⟨net, cause | ⟨id, cause⟩ | ⟨id, listener⟩⟩ := built
    · exact hwhole rfl hfinish
    · have hsettle := calm_settle { waited with net := net }
      exact hwhole hsettle.source (hfinish.calm (.refl _) hsettle.net)
    · have hserve := calm_serve
        { waited with net := net, log := waited.log ++ [establishedEntry waited.settings] }
        listener 0 true
      exact hwhole hserve.source (hfinish.calm (.refl _) hserve.net)

end Tether.Sim.Bench

namespace Tether.Agent

open Tether.Control Tether.Overlay Tether.Sim

/-! ## By a supervisor -/

theorem finishBuild_finishes (s : Supervisor) (key : Key) :
    ∃ built : Built, (s.finishBuild key).2 = built.error? ∧
      Finishes s.setup.settings key s.net (s.finishBuild key).1.net built.result := by
  have hnet : ∀ (s : Supervisor) (built : Built), (s.settleBuild built).net = s.net := by
    intro s built
    cases built <;> rfl
  refine ⟨(build s.net s.setup.settings key).2, rfl, ?_⟩
  show Finishes _ _ _ (Supervisor.settleBuild _ _).net _
  rw [hnet]
  exact finishes_build s.net s.setup.settings key

/-- Before its key comes, a build of a supervisor does not touch the network. -/
theorem net_act_building {s : Supervisor} {p : Pursuit} (h : s.phase = .building p) :
    (∃ key log, p.stage = .asking (.ok key) ∧
      s.act = Supervisor.rebuild { s with now := p.due, log := log } key) ∨
    s.act.net = s.net := by
  cases hp : p.stage with
  | resting =>
    rw [Supervisor.act_resting h hp]
    exact .inr rfl
  | asking r =>
    cases r with
    | error e =>
      rw [Supervisor.act_error h hp]
      exact .inr rfl
    | ok key =>
      obtain ⟨log, hact⟩ := Supervisor.act_key h hp
      exact .inl ⟨key, log, rfl, hact⟩

/-- A first build that is given up leaves the network as it was. -/
theorem net_start_abandoned {setup : Setup} {net : Network} {source : Source} {now deadline : Nat}
    (h : (Supervisor.start setup net source now deadline).2 = .abandoned) :
    (Supervisor.start setup net source now deadline).1.net = net := by
  unfold Supervisor.start at h ⊢
  dsimp only at h ⊢
  split
  · rfl
  · rename_i key hkey
    rw [hkey] at h
    dsimp only at h
    unfold Supervisor.comeUp at h
    split at h
    · cases h
    · cases h

/-- Who stops a supervisor starts no session. -/
theorem options_stop (s : Supervisor) : s.stop.net.options = s.net.options := by
  unfold Supervisor.stop
  dsimp only
  split
  · rfl
  · exact Network.options_close _ _

/-! ## Every build -/

/-- On every network, with every script of keys and all settings, a build that ends has made one
call that brought a key, and leaves one open session with everything in place, or one that is
closed, or none, as the faults of the network decide; one that is given up leaves none. The sessions
and listeners that were there before stay. A supervisor builds in the same way: it does not touch
the network while it waits for the key, and starts nothing when it is stopped or given up. -/
theorem build_whole :
    (∀ (b : Bench) (deadline : Nat), let b' := (b.build deadline).1
      b.Whole b' (b.build deadline).2 ∧
      (∀ id s, b.net.session? id = some s → b'.net.session? id = some s) ∧
      ∃ more, b'.net.heard = b.net.heard ++ more) ∧
    ∀ s : Supervisor,
      (∀ key, ∃ built : Built, (s.finishBuild key).2 = built.error? ∧
        Finishes s.setup.settings key s.net (s.finishBuild key).1.net built.result) ∧
      (∀ p, s.phase = .building p →
        (∃ key log, p.stage = .asking (.ok key) ∧
          s.act = Supervisor.rebuild { s with now := p.due, log := log } key) ∨
        s.act.net = s.net) ∧
      s.stop.net.options = s.net.options ∧
      ∀ source deadline,
        (Supervisor.start s.setup s.net source s.now deadline).2 = .abandoned →
        (Supervisor.start s.setup s.net source s.now deadline).1.net = s.net := by
  refine ⟨fun b deadline => ?_, fun s => ?_⟩
  · have hwhole := b.whole_build deadline
    obtain ⟨⟨more, hsessions⟩, hheard⟩ := hwhole.kept
    exact ⟨hwhole, fun id s hs => Network.session?_append hsessions hs, hheard⟩
  · exact ⟨finishBuild_finishes s, fun p hp => net_act_building hp, options_stop s,
      fun source deadline h => net_start_abandoned h⟩

/-- The first build on a bench without faults. -/
theorem build_whole_fresh :
    (({} : Bench).build 0).2 = some (.ok 1) ∧
      ∃ o, o.ephemeral = true ∧ o.authKey = "key-1" ∧
        (({} : Bench).build 0).1.net.sessions = [⟨o, false, some .relay, [(80, 0)]⟩] := by
  have hbuild : (({} : Bench).build 0).2 = some (.ok 1) ∧
      (({} : Bench).build 0).1.source.calls = 1 := by
    unfold Bench.build
    rw [Source.obtain_of_result rfl (Nat.zero_le _)]
    exact ⟨rfl, rfl⟩
  refine ⟨hbuild.1, ?_⟩
  obtain ⟨hwhole, -, -⟩ := build_whole.1 {} 0
  rw [hbuild.1] at hwhole
  obtain ⟨key, hkey, -, hfinishes⟩ := hwhole
  rw [hbuild.2] at hkey
  cases hkey
  cases hfinishes with
  | opened _ _ _ _ hsessions _ => exact ⟨_, rfl, rfl, hsessions⟩

end Tether.Agent
