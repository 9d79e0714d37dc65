import Tether.Proofs.Lists
import Tether.Proofs.Openness
import Tether.Sim.Bench

/-!
What goes on at a bench of its own accord. Endpoints take the connections that wait for them, bytes
move on streams, pauses end; no session is started, closed or given another listener or fallback, no
listener is let go, no fault is used up and no key asked for (`Bench.Calm`). So it is with every
settling and with every move of the clock.
-/

namespace Tether.Sim

open Tether.Agent Tether.Control Tether.Overlay

namespace Network

theorem heard_modify (listeners : List Listener) (i : Nat) {f : Listener → Listener}
    (hf : ∀ l, (f l).port = l.port ∧ (f l).held = l.held) :
    (listeners.modify i f).map (fun l => (l.port, l.held)) =
      listeners.map fun l => (l.port, l.held) :=
  map_modify_same (fun l => Prod.ext (hf l).1 (hf l).2) listeners i

theorem calm_accept (n : Network) (listener : Nat) : n.Calm (n.accept listener).1 := by
  unfold accept
  split
  · exact .refl n
  · split
    · exact ⟨rfl, heard_modify _ _ fun _ => ⟨rfl, rfl⟩, rfl, rfl⟩
    · exact .refl n

theorem calm_accepts (taken : List Connection) (listener : Nat) (n : Network) :
    n.Calm (taken.foldl (fun net _ => (net.accept listener).1) n) :=
  taken.foldlRecOn _ (.refl n) fun n' h _ _ => h.trans (n'.calm_accept listener)

end Network

namespace Bench

/-- From one bench to another nothing was done to the sessions, and no key was asked for. -/
structure Calm (b b' : Bench) : Prop where
  source : b'.source = b.source
  settings : b'.settings = b.settings
  net : b.net.Calm b'.net

namespace Calm

theorem refl (b : Bench) : b.Calm b := ⟨rfl, rfl, .refl _⟩

theorem trans {b b' b'' : Bench} (h : b.Calm b') (h' : b'.Calm b'') : b.Calm b'' :=
  ⟨h'.source.trans h.source, h'.settings.trans h.settings, h.net.trans h'.net⟩

theorem foldl {α : Type} {f : Bench → α → Bench} (hf : ∀ b x, Calm b (f b x)) (xs : List α)
    (b : Bench) : b.Calm (xs.foldl f b) :=
  xs.foldlRecOn f (refl b) fun b' h x _ => h.trans (hf b' x)

end Calm

theorem calm_runServer (b : Bench) (index : Nat) : b.Calm (b.runServer index) := by
  unfold runServer
  split
  · exact .refl b
  · split
    · exact .refl b
    · exact ⟨rfl, rfl, Network.calm_accepts _ _ _⟩

theorem calm_runService (b : Bench) (entry : Nat × Service) : b.Calm (b.runService entry) := by
  unfold runService
  split
  · exact .refl b
  · exact ⟨rfl, rfl, .refl _⟩

theorem calm_settle (b : Bench) : b.Calm b.settle :=
  (Calm.foldl calm_runServer _ b).trans (Calm.foldl calm_runService _ _)

theorem calm_moveTo (target stops : Nat) (b : Bench) : b.Calm (moveTo target stops b) := by
  induction stops generalizing b with
  | zero => exact ⟨rfl, rfl, .refl _⟩
  | succ stops ih =>
    have hwake : ∀ time, b.Calm (b.wakeAt time) := by
      intro time
      have hs := calm_settle { b with
        now := time, servers := b.servers.map fun s => { s with state := s.state.wake time } }
      exact ⟨hs.source, hs.settings, hs.net⟩
    unfold moveTo
    split
    · split
      · exact (hwake _).trans (ih _)
      · exact ⟨rfl, rfl, .refl _⟩
    · exact ⟨rfl, rfl, .refl _⟩

theorem calm_advance (b : Bench) (time : Nat) : b.Calm (b.advance time) := calm_moveTo _ _ b

theorem calm_serve (b : Bench) (listener failures : Nat) (ofBuild : Bool) :
    b.Calm (b.serve listener failures ofBuild) := by
  have hs := calm_settle { b with
    servers := b.servers ++ [⟨listener, failures, .accepting, ofBuild⟩]
    log := b.log ++ [Liveness.servingEntry
      ((b.net.listeners[listener]?.map Listener.port).getD 0)] }
  exact ⟨hs.source, hs.settings, hs.net⟩

end Bench

end Tether.Sim
