import Tether.Proofs.Keys.Bench
import Tether.Proofs.Secrecy.Bench
import Tether.Proofs.Sim.Building

/-!
Where the keys of the sessions on a bench came from. A session is started by hand, with a key that
is given, or by a build, with the key of its latest call; nothing else starts one. Which of the two
it was, and which call it was, can be read off what is told of the actions (`Bench.origins`), so it
is the same on benches that differ in their keys alone, and each session has the key that came from
there: `Bench.came_play`.
-/

namespace Tether.Sim

open Tether.Agent Tether.Control Tether.Net Tether.Overlay

namespace Bench

/-- Where the key of a session came from. -/
inductive Origin
  /-- The session was started by hand with these options. -/
  | hand (options : Options)
  /-- The call of this number brought the key. -/
  | call (number : Nat)

/-- Where the key came from of the session that an action started, if it started one, by what was
told of it and the number of the latest call. -/
def origin? (latest : Nat) : Action → Answer → Option Origin
  | .start options, .started (.ok _) => some (.hand options)
  | .build _, .built (some (.ok _)) => some (.call latest)
  | .build _, .built (some (.error (.liveness _))) => some (.call latest)
  | _, _ => none

/-- Where the keys came from of the sessions that a row of actions started. -/
def origins (b : Bench) : List Action → List Origin
  | [] => []
  | a :: actions =>
    (origin? (b.does a).1.source.calls a (b.does a).2).toList ++ (b.does a).1.origins actions

/-- The key of a session that was started with these options came from there. -/
def Came (keys : Source) : Origin → Options → Prop
  | .hand given, o => o = given
  | .call number, o => Opens keys number o

theorem Twin.origins {P : String → String → Prop} {b b' : Bench} (hP : ∀ key, P key key)
    (h : b.Twin P b') (actions : List Action) : b'.origins actions = b.origins actions := by
  induction actions generalizing b b' with
  | nil => rfl
  | cons a actions ih =>
    obtain ⟨hb, hr⟩ := h.does hP a
    have hcalls : (b'.does a).1.source.calls = (b.does a).1.source.calls := by
      obtain ⟨net, source, he, -, hs⟩ := hb
      rw [he]
      exact congrArg List.length hs.times
    unfold Bench.origins
    rw [hr, hcalls, ih hb]

/-! ## What does not touch the keys -/

theorem Aside.trans {b₁ b₂ b₃ : Bench} (h : b₁.Aside b₂) (h' : b₂.Aside b₃) : b₁.Aside b₃ :=
  ⟨h'.source.trans h.source, h'.options.trans h.options⟩

theorem aside_settle (b : Bench) : b.Aside b.settle := (calm_settle b).aside

theorem aside_blind {α : Type} {op : Network → Network × α} (hop : Network.Blind op) (b : Bench) :
    b.Aside { b with net := (op b.net).1 } := ⟨rfl, hop.options b.net⟩

theorem aside_dropEnd (b : Bench) (stream : Nat) (side : Side) :
    b.Aside (b.dropEnd stream side) := by
  have hs := aside_settle { b with
    streams := b.streams.map fun x => if x.1 = stream then (x.1, x.2.drop side) else x }
  exact ⟨hs.source, hs.options⟩

theorem aside_release (b : Bench) (listener : Nat) : b.Aside (b.release listener) := by
  have hdropped : ∀ (waiting : List Connection) (b : Bench),
      b.Aside (waiting.foldl (fun b c => b.dropEnd c.id .acceptor) b) := fun waiting b =>
    waiting.foldlRecOn _ (.refl b) fun b' h c _ => h.trans (b'.aside_dropEnd c.id .acceptor)
  exact (aside_blind (Network.blind_release listener) b).trans (hdropped _ _)

theorem aside_setStream (b : Bench) (stream : Nat) (d : Duplex) :
    b.Aside (settle (b.setStream stream d)) := by
  have hs := aside_settle (b.setStream stream d)
  exact ⟨hs.source, hs.options⟩

theorem aside_dial (b : Bench) (session : Nat) (src dst : Endpoint) :
    b.Aside (b.dial session src dst).1 := by
  have ho := (Network.blind_dial session src dst).options b.net
  unfold Bench.dial
  dsimp only at ho ⊢
  generalize b.net.dial session src dst = dialed at ho ⊢
  obtain ⟨net, d⟩ := dialed
  have hsettled : ∀ streams services,
      b.Aside (settle { b with net := net, streams := streams, services := services }) := by
    intro streams services
    have hs := aside_settle { b with net := net, streams := streams, services := services }
    exact ⟨hs.source, hs.options.trans ho⟩
  cases d with
  | refused => exact ⟨rfl, ho⟩
  | queued c l => exact hsettled _ _
  | asked c routing =>
    cases routing with
    | pass => exact ⟨rfl, ho⟩
    | intercept f => exact hsettled _ _

/-- The clock and the services do not touch the source while a key is waited for. -/
theorem source_build (b : Bench) (deadline : Nat) :
    (b.build deadline).1.source =
      (b.source.obtain b.retry b.now (b.now + deadline)).source := by
  unfold Bench.build
  dsimp only
  generalize b.source.obtain b.retry b.now (b.now + deadline) = run
  obtain ⟨source, progress, now, log⟩ := run
  have hwaited := calm_advance { b with source := source, log := b.log ++ log } (now - b.now)
  dsimp only
  generalize advance { b with source := source, log := b.log ++ log } (now - b.now) = waited
    at hwaited ⊢
  cases progress with
  | pursuing p => exact hwaited.source
  | got key =>
    dsimp only
    generalize Agent.build waited.net waited.settings key = built
    obtain ⟨net, cause | ⟨id, cause⟩ | ⟨id, listener⟩⟩ := built
    · exact hwaited.source
    · exact (calm_settle _).source.trans hwaited.source
    · exact (calm_serve _ _ _ _).source.trans hwaited.source

/-! ## What brings them -/

variable {b : Bench} {keys : Source}

theorem came_start (b : Bench) (options : Options) (latest : Nat) :
    ∃ more, (b.start options).1.net.options = b.net.options ++ more ∧
      List.Forall₂ (Came keys)
        (origin? latest (.start options) (.started (b.start options).2)).toList more := by
  have ho := b.net.options_start options
  refine ⟨_, ho, ?_⟩
  show List.Forall₂ _ (origin? _ _ (.started (b.net.start options).2)).toList _
  generalize (b.net.start options).2 = r
  cases r with
  | error cause => exact .nil
  | ok id => exact .cons rfl .nil

theorem came_build (hs : b.source.script = keys.script) (deadline : Nat) :
    ∃ more, (b.build deadline).1.net.options = b.net.options ++ more ∧
      List.Forall₂ (Came keys)
        (origin? (b.build deadline).1.source.calls (.build deadline)
          (.built (b.build deadline).2)).toList more := by
  have hresult : ∀ call, keys.result call = b.source.result call := by
    intro call
    unfold Source.result Source.reply
    rw [hs]
  have hwhole := b.whole_build deadline
  generalize (b.build deadline).2 = r at hwhole
  cases r with
  | none =>
    have hcalm : b.net.Calm (b.build deadline).1.net := hwhole
    refine ⟨[], ?_, .nil⟩
    rw [List.append_nil, Network.options_congr hcalm.sessions]
  | some r =>
    obtain ⟨key, hkey, -, hfinish⟩ := hwhole
    have hopens : Came keys (.call (b.build deadline).1.source.calls) (b.settings.options key) :=
      ⟨key, (hresult _).trans hkey, rfl⟩
    unfold Network.options
    cases hfinish with
    | notStarted _ _ hsessions _ => exact ⟨[], by rw [hsessions, List.append_nil], .nil⟩
    | closed _ _ _ _ hsessions _ =>
      refine ⟨[b.settings.options key], ?_, .cons hopens .nil⟩
      rw [hsessions, List.map_append]
      rfl
    | opened _ _ _ _ hsessions _ =>
      refine ⟨[b.settings.options key], ?_, .cons hopens .nil⟩
      rw [hsessions, List.map_append]
      rfl

/-- An action starts no session but the one that it is told to have started, and that one with the
key that is told. -/
theorem came_does (hs : b.source.script = keys.script) (a : Action) :
    (b.does a).1.source.script = keys.script ∧
      ∃ more, (b.does a).1.net.options = b.net.options ++ more ∧
        List.Forall₂ (Came keys) (origin? (b.does a).1.source.calls a (b.does a).2).toList
          more := by
  have haside : ∀ {b' : Bench}, b.Aside b' → b'.source.script = keys.script ∧
      ∃ more, b'.net.options = b.net.options ++ more ∧ List.Forall₂ (Came keys) [] more := by
    intro b' ha
    exact ⟨by rw [ha.source, hs], [], by rw [ha.options, List.append_nil], .nil⟩
  cases a with
  | start options => exact ⟨hs, b.came_start options _⟩
  | build deadline =>
    refine ⟨?_, came_build hs deadline⟩
    show (b.build deadline).1.source.script = keys.script
    rw [source_build]
    exact (Pursuit.behind_obtain hs (.refl keys b.source.calls) _ _ _).1
  | scriptHealth outcomes => exact haside (aside_blind (Network.blind_scriptHealth outcomes) b)
  | failNextStarts count => exact haside (aside_blind (Network.blind_failNextStarts count) b)
  | failListen fail => exact haside (aside_blind (Network.blind_setFailListen fail) b)
  | register session fallback =>
    exact haside (aside_blind (Network.blind_setFallback session fallback) b)
  | listen session port =>
    exact haside ((aside_blind (Network.blind_listen session port) b).trans (aside_settle _))
  | accept listener => exact haside (aside_blind (Network.blind_accept listener) b)
  | release listener => exact haside (b.aside_release listener)
  | serve listener failures => exact haside (b.calm_serve listener failures false).aside
  | dial session src dst => exact haside (b.aside_dial session src dst)
  | write stream side bytes =>
    refine haside ?_
    show b.Aside (b.write stream side bytes).1
    unfold Bench.write
    split
    · exact .refl b
    · exact b.aside_setStream _ _
  | read stream side limit =>
    refine haside ?_
    show b.Aside (b.read stream side limit).1
    unfold Bench.read
    split
    · exact .refl b
    · exact b.aside_setStream _ _
  | shutdown stream side =>
    refine haside ?_
    show b.Aside (b.shutdown stream side)
    unfold Bench.shutdown
    split
    · exact .refl b
    · exact b.aside_setStream _ _
  | dropEnd stream side => exact haside (b.aside_dropEnd stream side)
  | localClient => exact haside (aside_blind Network.blind_localClient b)
  | status session => exact haside (aside_blind (Network.blind_status session) b)
  | close session => exact haside (b.aside_close session)
  | advance time => exact haside (b.calm_advance time).aside

theorem came_play (hs : b.source.script = keys.script) (actions : List Action) :
    ∃ more, (b.play actions).1.net.options = b.net.options ++ more ∧
      List.Forall₂ (Came keys) (b.origins actions) more := by
  induction actions generalizing b with
  | nil => exact ⟨[], (List.append_nil _).symm, .nil⟩
  | cons a actions ih =>
    obtain ⟨hs₁, more₁, ho₁, hcame₁⟩ := came_does hs a
    obtain ⟨more₂, ho₂, hcame₂⟩ := ih hs₁
    refine ⟨more₁ ++ more₂, ?_, List.rel_append hcame₁ hcame₂⟩
    show ((b.does a).1.play actions).1.net.options = _
    rw [ho₂, ho₁, List.append_assoc]

end Bench

end Tether.Sim
