import Tether.Proofs.Secrecy.Network
import Tether.Proofs.Secrecy.Pursuit
import Tether.Sim.Bench

/-!
Benches that differ in their keys. Two benches are twins if their networks look alike under their
veils, their sources are alike, and all the rest of them is equal: the streams, the endpoints and
services at work, the clock and the log. Everything that can be done on a bench, sessions started by
hand among it, tells the same on both and leaves them twins (`Twin.does`, `Twin.play`).
-/

namespace Tether.Sim

open Tether.Agent Tether.Control Tether.Net Tether.Overlay

namespace Bench

variable {P : String → String → Prop}

/-- Two benches are the same but for the keys in their networks and sources. -/
def Twin (P : String → String → Prop) (b b' : Bench) : Prop :=
  ∃ net source, b' = { b with net := net, source := source } ∧
    b.net.Twin P net ∧ b.source.Alike P source

namespace Twin

variable {b b' : Bench}

/-! ## Settling -/

theorem accepts_eq {n n' : Network} (h : n.Twin P n') (server : Server) :
    accepts n' server = accepts n server := by
  have hfed : n'.isFed server.listener = n.isFed server.listener :=
    h.told (f := (·.isFed server.listener)) fun n => n.isFed_veil server.listener
  have hlisteners : n'.listeners = n.listeners := h.told fun _ => rfl
  unfold accepts
  rw [hfed, hlisteners]

theorem runServer (index : Nat) (h : b.Twin P b') :
    (b.runServer index).Twin P (b'.runServer index) := by
  obtain ⟨net, source, rfl, hn, hs⟩ := h
  have haccepted : ∀ (taken : List Connection) (listener : Nat),
      (taken.foldl (fun net _ => (net.accept listener).1) b.net).Twin P
        (taken.foldl (fun net _ => (net.accept listener).1) net) := fun taken listener =>
    List.foldl_rel hn fun _ _ _ _ h => ((Network.blind_accept listener).twin h).1
  unfold Bench.runServer
  dsimp only
  split
  · exact ⟨_, _, rfl, hn, hs⟩
  · split
    · exact ⟨_, _, rfl, hn, hs⟩
    · rw [accepts_eq hn]
      exact ⟨_, _, rfl, haccepted _ _, hs⟩

theorem runService (entry : Nat × Service) (h : b.Twin P b') :
    (b.runService entry).Twin P (b'.runService entry) := by
  obtain ⟨net, source, rfl, hn, hs⟩ := h
  unfold Bench.runService
  dsimp only
  split
  · exact ⟨_, _, rfl, hn, hs⟩
  · exact ⟨_, _, rfl, hn, hs⟩

theorem settle (h : b.Twin P b') : b.settle.Twin P b'.settle := by
  have hservers : b'.servers = b.servers := by
    obtain ⟨net, source, rfl, -⟩ := h
    rfl
  have hserved : Twin P ((List.range b.servers.length).foldl Bench.runServer b)
      ((List.range b.servers.length).foldl Bench.runServer b') :=
    List.foldl_rel h fun index _ _ _ => runServer index
  unfold Bench.settle
  rw [hservers]
  dsimp only
  generalize (List.range b.servers.length).foldl Bench.runServer b = t,
    (List.range b.servers.length).foldl Bench.runServer b' = t' at hserved ⊢
  have hservices : t'.services = t.services := by
    obtain ⟨net, source, rfl, -⟩ := hserved
    rfl
  rw [hservices]
  exact List.foldl_rel hserved fun entry _ _ _ => runService entry

/-! ## Time -/

theorem moveTo (target stops : Nat) (h : b.Twin P b') :
    (Bench.moveTo target stops b).Twin P (Bench.moveTo target stops b') := by
  induction stops generalizing b b' with
  | zero =>
    obtain ⟨net, source, rfl, hn, hs⟩ := h
    exact ⟨_, _, rfl, hn, hs⟩
  | succ stops ih =>
    have hwoken : ∀ time, (b.wakeAt time).Twin P (b'.wakeAt time) := by
      intro time
      obtain ⟨net, source, rfl, hn, hs⟩ := h
      refine settle ?_
      exact ⟨_, _, rfl, hn, hs⟩
    have halarm : b'.alarm? = b.alarm? := by
      obtain ⟨net, source, rfl, -⟩ := h
      rfl
    have hkept : Twin P { b with now := target } { b' with now := target } := by
      obtain ⟨net, source, rfl, hn, hs⟩ := h
      exact ⟨_, _, rfl, hn, hs⟩
    unfold Bench.moveTo
    rw [halarm]
    split
    · split
      · exact ih (hwoken _)
      · exact hkept
    · exact hkept

theorem advance (h : b.Twin P b') (time : Nat) : (b.advance time).Twin P (b'.advance time) := by
  have hsame : b'.now = b.now ∧ b'.stops = b.stops := by
    obtain ⟨net, source, rfl, -⟩ := h
    exact ⟨rfl, rfl⟩
  unfold Bench.advance
  rw [hsame.1, hsame.2]
  exact h.moveTo _ _

/-! ## On the network -/

theorem blind {α : Type} {op : Network → Network × α} (hop : Network.Blind op)
    (h : b.Twin P b') :
    Twin P { b with net := (op b.net).1 } { b' with net := (op b'.net).1 } ∧
      (op b'.net).2 = (op b.net).2 := by
  obtain ⟨net, source, rfl, hn, hs⟩ := h
  obtain ⟨hdone, hsame⟩ := hop.twin hn
  exact ⟨⟨_, _, rfl, hdone, hs⟩, hsame⟩

theorem start (hP : ∀ key, P key key) (h : b.Twin P b') (options : Options) :
    (b.start options).1.Twin P (b'.start options).1 ∧
      (b'.start options).2 = (b.start options).2 := by
  obtain ⟨net, source, rfl, hn, hs⟩ := h
  obtain ⟨hstarted, hsame⟩ := hn.start (rfl : options.veil = options.veil) (hP options.authKey)
  exact ⟨⟨_, _, rfl, hstarted, hs⟩, hsame⟩

theorem dropEnd (h : b.Twin P b') (stream : Nat) (side : Side) :
    (b.dropEnd stream side).Twin P (b'.dropEnd stream side) := by
  obtain ⟨net, source, rfl, hn, hs⟩ := h
  refine settle ?_
  exact ⟨_, _, rfl, hn, hs⟩

theorem release (h : b.Twin P b') (listener : Nat) :
    (b.release listener).Twin P (b'.release listener) := by
  obtain ⟨hreleased, hsame⟩ := h.blind (Network.blind_release listener)
  show Twin P ((b.net.release listener).2.foldl _ _) ((b'.net.release listener).2.foldl _ _)
  rw [hsame]
  exact List.foldl_rel hreleased fun c _ _ _ h => h.dropEnd c.id .acceptor

theorem serve (h : b.Twin P b') (listener failures : Nat) (ofBuild : Bool) :
    (b.serve listener failures ofBuild).Twin P (b'.serve listener failures ofBuild) := by
  obtain ⟨net, source, rfl, hn, hs⟩ := h
  have hlisteners : net.listeners = b.net.listeners := hn.told fun _ => rfl
  unfold Bench.serve
  dsimp only
  rw [hlisteners]
  refine settle ?_
  exact ⟨_, _, rfl, hn, hs⟩

theorem dial (h : b.Twin P b') (session : Nat) (src dst : Endpoint) :
    (b.dial session src dst).1.Twin P (b'.dial session src dst).1 ∧
      (b'.dial session src dst).2 = (b.dial session src dst).2 := by
  obtain ⟨net, source, rfl, hn, hs⟩ := h
  obtain ⟨hdialed, hsame⟩ := (Network.blind_dial session src dst).twin hn
  have hasked : (net.session? session).bind Session.fallback =
      (b.net.session? session).bind Session.fallback := by
    refine hn.told (f := fun n => (n.session? session).bind Session.fallback) fun n => ?_
    rw [Network.session?_veil]
    cases n.session? session <;> rfl
  unfold Bench.dial
  dsimp only at hdialed hsame ⊢
  rw [hasked]
  generalize b.net.dial session src dst = dialed, net.dial session src dst = dialed' at *
  obtain ⟨net₁, d⟩ := dialed
  obtain ⟨net₁', d'⟩ := dialed'
  cases hsame
  have hsettled : ∀ streams services,
      (Bench.settle { b with net := net₁, streams := streams, services := services }).Twin P
        (Bench.settle { b with
          net := net₁', source := source, streams := streams, services := services }) := by
    intro streams services
    refine settle ?_
    exact ⟨_, _, rfl, hdialed, hs⟩
  cases d with
  | refused => exact ⟨⟨_, _, rfl, hdialed, hs⟩, rfl⟩
  | queued c l => exact ⟨hsettled _ _, rfl⟩
  | asked c routing =>
    cases routing with
    | pass => exact ⟨⟨_, _, rfl, hdialed, hs⟩, rfl⟩
    | intercept f => exact ⟨hsettled _ _, rfl⟩

/-! ## Building -/

theorem build (h : b.Twin P b') (deadline : Nat) :
    (b.build deadline).1.Twin P (b'.build deadline).1 ∧
      (b'.build deadline).2 = (b.build deadline).2 := by
  obtain ⟨net, source, rfl, hn, hs⟩ := h
  obtain ⟨hsource, hprogress, hnow, hlog⟩ := hs.obtain b.retry b.now (b.now + deadline)
  unfold Bench.build
  dsimp only
  generalize b.source.obtain b.retry b.now (b.now + deadline) = run,
    source.obtain b.retry b.now (b.now + deadline) = run' at *
  obtain ⟨source₁, progress, time, log⟩ := run
  obtain ⟨source₁', progress', time', log'⟩ := run'
  dsimp only at *
  subst hnow hlog
  have hwaited : Twin P { b with source := source₁, log := b.log ++ log' }
      { b with net := net, source := source₁', log := b.log ++ log' } :=
    ⟨_, _, rfl, hn, hsource⟩
  replace hwaited := hwaited.advance (time' - b.now)
  generalize Bench.advance { b with source := source₁, log := b.log ++ log' } _ = waited,
    Bench.advance { b with net := net, source := source₁', log := b.log ++ log' } _ = waited'
    at hwaited ⊢
  cases hprogress with
  | pursuing hp => exact ⟨hwaited, rfl⟩
  | @got key key' hkey =>
    obtain ⟨net, source, rfl, hn, hs⟩ := hwaited
    obtain ⟨hbuilt, hsame⟩ := hn.build waited.settings hkey
    dsimp only
    generalize Agent.build waited.net waited.settings key = built,
      Agent.build net waited.settings key' = built' at *
    obtain ⟨net₁, result⟩ := built
    obtain ⟨net₁', result'⟩ := built'
    cases hsame
    cases result with
    | notStarted cause => exact ⟨⟨_, _, rfl, hbuilt, hs⟩, rfl⟩
    | halfBuilt id cause =>
      refine ⟨settle ?_, rfl⟩
      exact ⟨_, _, rfl, hbuilt, hs⟩
    | ready id listener =>
      refine ⟨serve ?_ _ _ _, rfl⟩
      exact ⟨_, _, rfl, hbuilt, hs⟩

/-! ## On streams -/

theorem write (h : b.Twin P b') (stream : Nat) (side : Side) (bytes : List UInt8) :
    (b.write stream side bytes).1.Twin P (b'.write stream side bytes).1 ∧
      (b'.write stream side bytes).2 = (b.write stream side bytes).2 := by
  obtain ⟨net, source, rfl, hn, hs⟩ := h
  unfold Bench.write Bench.stream?
  dsimp only
  split
  · exact ⟨⟨_, _, rfl, hn, hs⟩, rfl⟩
  · refine ⟨settle ?_, rfl⟩
    exact ⟨_, _, rfl, hn, hs⟩

theorem read (h : b.Twin P b') (stream : Nat) (side : Side) (limit : Option Nat) :
    (b.read stream side limit).1.Twin P (b'.read stream side limit).1 ∧
      (b'.read stream side limit).2 = (b.read stream side limit).2 := by
  obtain ⟨net, source, rfl, hn, hs⟩ := h
  unfold Bench.read Bench.stream?
  dsimp only
  split
  · exact ⟨⟨_, _, rfl, hn, hs⟩, rfl⟩
  · refine ⟨settle ?_, rfl⟩
    exact ⟨_, _, rfl, hn, hs⟩

theorem shutdown (h : b.Twin P b') (stream : Nat) (side : Side) :
    (b.shutdown stream side).Twin P (b'.shutdown stream side) := by
  obtain ⟨net, source, rfl, hn, hs⟩ := h
  unfold Bench.shutdown Bench.stream?
  dsimp only
  split
  · exact ⟨_, _, rfl, hn, hs⟩
  · refine settle ?_
    exact ⟨_, _, rfl, hn, hs⟩

end Twin

end Bench

/-! ## All that can be done -/

/-- One thing that is done on a bench. -/
inductive Action
  | scriptHealth (outcomes : List HealthOutcome)
  | failNextStarts (count : Nat)
  | failListen (fail : Bool)
  /-- A session is started by hand. -/
  | start (options : Options)
  /-- A session is asked for, and waited for so many milliseconds. -/
  | build (deadline : Nat)
  | listen (session : Nat) (port : UInt16)
  | accept (listener : Nat)
  | release (listener : Nat)
  | serve (listener failures : Nat)
  | dial (session : Nat) (src dst : Endpoint)
  | register (session : Nat) (fallback : Fallback)
  | write (stream : Nat) (side : Side) (bytes : List UInt8)
  | read (stream : Nat) (side : Side) (limit : Option Nat)
  | shutdown (stream : Nat) (side : Side)
  | dropEnd (stream : Nat) (side : Side)
  | localClient
  | status (session : Nat)
  | close (session : Nat)
  | advance (time : Nat)
  deriving DecidableEq, Repr

/-- What is told of it. -/
inductive Answer
  | done
  | started (r : Except Overlay.Error Nat)
  | built (r : Option (Except Agent.Error Nat))
  | listening (r : Except Overlay.Error Nat)
  | accepted (r : Network.Accepted)
  /-- The stream, if there is one, and the fallback that was asked. -/
  | dialed (stream : Option Nat) (asked : Option Fallback)
  | written (w : Written)
  | read (bytes : List UInt8) (stop : Stop)
  | client (r : Except Overlay.Error Unit)
  | status (r : Except Overlay.Error Status)
  | closed (r : Except Overlay.Error Unit)

namespace Bench

/-- The bench behind an action, and what is told of it. -/
def does (b : Bench) : Action → Bench × Answer
  | .scriptHealth outcomes => (b.onNet (·.scriptHealth outcomes), .done)
  | .failNextStarts count => (b.onNet (·.failNextStarts count), .done)
  | .failListen fail => (b.onNet (·.setFailListen fail), .done)
  | .start options => let (b, r) := b.start options; (b, .started r)
  | .build deadline => let (b, r) := b.build deadline; (b, .built r)
  | .listen session port => let (b, r) := b.listen session port; (b, .listening r)
  | .accept listener => let (b, r) := b.accept listener; (b, .accepted r)
  | .release listener => (b.release listener, .done)
  | .serve listener failures => (b.serve listener failures false, .done)
  | .dial session src dst =>
    let (b, stream, asked) := b.dial session src dst; (b, .dialed stream asked)
  | .register session fallback => (b.onNet (·.setFallback session fallback), .done)
  | .write stream side bytes => let (b, w) := b.write stream side bytes; (b, .written w)
  | .read stream side limit =>
    let (b, bytes, stop) := b.read stream side limit; (b, .read bytes stop)
  | .shutdown stream side => (b.shutdown stream side, .done)
  | .dropEnd stream side => (b.dropEnd stream side, .done)
  | .localClient => let (b, r) := b.localClient; (b, .client r)
  | .status session => let (b, r) := b.status session; (b, .status r)
  | .close session => let (b, r) := b.close session; (b, .closed r)
  | .advance time => (b.advance time, .done)

/-- The bench behind a row of actions, and what is told of them. -/
def play (b : Bench) : List Action → Bench × List Answer
  | [] => (b, [])
  | a :: actions =>
    (((b.does a).1.play actions).1, (b.does a).2 :: ((b.does a).1.play actions).2)

variable {P : String → String → Prop} {b b' : Bench}

/-- Whatever is done, the same is told of it on both benches. -/
theorem Twin.does (hP : ∀ key, P key key) (h : b.Twin P b') (a : Action) :
    (b.does a).1.Twin P (b'.does a).1 ∧ (b'.does a).2 = (b.does a).2 := by
  have hblind : ∀ {f : Network → Network}, Network.Blind (fun n => (f n, ())) →
      (b.onNet f).Twin P (b'.onNet f) := fun hf => (h.blind hf).1
  cases a with
  | scriptHealth outcomes => exact ⟨hblind (Network.blind_scriptHealth outcomes), rfl⟩
  | failNextStarts count => exact ⟨hblind (Network.blind_failNextStarts count), rfl⟩
  | failListen fail => exact ⟨hblind (Network.blind_setFailListen fail), rfl⟩
  | register session fallback => exact ⟨hblind (Network.blind_setFallback session fallback), rfl⟩
  | start options =>
    obtain ⟨hb, hr⟩ := h.start hP options
    exact ⟨hb, congrArg Answer.started hr⟩
  | build deadline =>
    obtain ⟨hb, hr⟩ := h.build deadline
    exact ⟨hb, congrArg Answer.built hr⟩
  | listen session port =>
    obtain ⟨hb, hr⟩ := h.blind (Network.blind_listen session port)
    exact ⟨hb.settle, congrArg Answer.listening hr⟩
  | accept listener =>
    obtain ⟨hb, hr⟩ := h.blind (Network.blind_accept listener)
    exact ⟨hb, congrArg Answer.accepted hr⟩
  | release listener => exact ⟨h.release listener, rfl⟩
  | serve listener failures => exact ⟨h.serve listener failures false, rfl⟩
  | dial session src dst =>
    obtain ⟨hb, hr⟩ := h.dial session src dst
    exact ⟨hb, congrArg (fun r : Option Nat × Option Fallback => Answer.dialed r.1 r.2) hr⟩
  | write stream side bytes =>
    obtain ⟨hb, hr⟩ := h.write stream side bytes
    exact ⟨hb, congrArg Answer.written hr⟩
  | read stream side limit =>
    obtain ⟨hb, hr⟩ := h.read stream side limit
    exact ⟨hb, congrArg (fun r : List UInt8 × Stop => Answer.read r.1 r.2) hr⟩
  | shutdown stream side => exact ⟨h.shutdown stream side, rfl⟩
  | dropEnd stream side => exact ⟨h.dropEnd stream side, rfl⟩
  | localClient =>
    obtain ⟨hb, hr⟩ := h.blind Network.blind_localClient
    exact ⟨hb, congrArg Answer.client hr⟩
  | status session =>
    obtain ⟨hb, hr⟩ := h.blind (Network.blind_status session)
    exact ⟨hb, congrArg Answer.status hr⟩
  | close session =>
    obtain ⟨hb, hr⟩ := h.blind (Network.blind_close session)
    exact ⟨hb.settle, congrArg Answer.closed hr⟩
  | advance time => exact ⟨h.advance time, rfl⟩

theorem Twin.play (hP : ∀ key, P key key) (h : b.Twin P b') (actions : List Action) :
    (b.play actions).1.Twin P (b'.play actions).1 ∧ (b'.play actions).2 = (b.play actions).2 := by
  induction actions generalizing b b' with
  | nil => exact ⟨h, rfl⟩
  | cons a actions ih =>
    obtain ⟨hb, hr⟩ := h.does hP a
    obtain ⟨hlast, hanswers⟩ := ih hb
    exact ⟨hlast, congrArg₂ List.cons hr hanswers⟩

end Bench

end Tether.Sim
