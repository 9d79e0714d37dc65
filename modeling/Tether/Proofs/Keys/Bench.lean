import Tether.Proofs.Keys.Ledger
import Tether.Proofs.Sim.Calm

/-!
Builds by hand. On a bench somebody asks for one session after another, and no longer waits for one
whose key does not come in time. Nothing but a build asks for a key or starts a session
(`Bench.Aside`), a build that has its key spends it, and one that is left alone leaves the call that
it waited for behind: `Bench.Books.build`.
-/

namespace Tether.Sim

open Tether.Agent Tether.Control Tether.Overlay

namespace Bench

/-! ## What does not touch the keys -/

/-- No key was asked for and no session started on the way from one bench to another. -/
structure Aside (b b' : Bench) : Prop where
  source : b'.source = b.source
  options : b'.net.options = b.net.options

theorem Aside.refl (b : Bench) : b.Aside b := ⟨rfl, rfl⟩

theorem Calm.aside {b b' : Bench} (h : b.Calm b') : b.Aside b' :=
  ⟨h.source, Network.options_congr h.net.sessions⟩

theorem aside_close (b : Bench) (session : Nat) : b.Aside (b.close session).1 := by
  have hs := (calm_settle { b with net := (b.net.close session).1 }).aside
  exact ⟨hs.source, hs.options.trans (Network.options_close _ _)⟩

/-! ## A build -/

/-- A ledger accounts for the keys of a bench. -/
structure Books (b : Bench) (origin : Source) (k : Ledger) : Prop where
  script : b.source.script = origin.script
  calls : b.source.calls = k.last
  valid : k.Valid origin b.net

variable {b b' : Bench} {origin : Source} {k : Ledger}

theorem Books.aside (h : b.Books origin k) (ha : b.Aside b') : b'.Books origin k := by
  refine ⟨?_, ?_, h.valid.congr ha.options⟩
  · rw [ha.source]
    exact h.script
  · rw [ha.source]
    exact h.calls

/-- What a build does to the ledger: if it has its key in time it spends that key, which is the only
one that came to it, and else it spends none. -/
def Spends (origin : Source) (k k' : Ledger) : Option (Except Agent.Error Nat) → Prop
  | none => k'.spent = k.spent
  | some _ => k'.spent = k.spent ++ [k'.last] ∧
      origin.granted k'.last = origin.granted k.last ++ [k'.last]

/-- A call that a build no longer waits for is left behind. -/
theorem Books.leave (hs : b.source.script = origin.script) (hle : k.last ≤ b.source.calls)
    (hv : k.Valid origin b.net) :
    ∃ k', k.Extends k' ∧ b.Books origin k' ∧ Spends origin k k' none :=
  ⟨k.leave b.source.calls, Ledger.extends_leave hle, ⟨hs, rfl, hv.leave hle⟩, rfl⟩

/-- A key that came is spent, whatever comes of the build. -/
theorem Books.spend {key : Key} (hs : b.source.script = origin.script)
    (hw : origin.Awaits k.last b.source.calls (.ok key)) (hv : k.Valid origin b.net)
    (ha : Aside { b with net := (Agent.build b.net b.settings key).1 } b')
    (r : Except Agent.Error Nat) :
    ∃ k', k.Extends k' ∧ b'.Books origin k' ∧ Spends origin k k' (some r) := by
  let k' := k.spend b.source.calls (Agent.build b.net b.settings key).2.started
  have hbuilt : k'.Valid origin (Agent.build b.net b.settings key).1 :=
    hv.spend hw rfl _ (options_build b.net b.settings key)
  have hbooks : Books { b with net := (Agent.build b.net b.settings key).1 } origin k' :=
    ⟨hs, rfl, hbuilt⟩
  exact ⟨k', Ledger.extends_spend hw.lt _, hbooks.aside ha, rfl, hw.granted_eq⟩

/-- Every build spends its key or leaves the call behind that it waited for. -/
theorem Books.build (h : b.Books origin k) (deadline : Nat) :
    ∃ k', k.Extends k' ∧ (b.build deadline).1.Books origin k' ∧
      Spends origin k k' (b.build deadline).2 := by
  obtain ⟨hscript, hcalls, hvalid⟩ := h
  have hbarren : origin.Barren k.last b.source.calls := by
    rw [hcalls]
    exact .refl origin k.last
  have hrun := Pursuit.behind_obtain hscript hbarren b.retry b.now (b.now + deadline)
  unfold Bench.build
  dsimp only
  generalize b.source.obtain b.retry b.now (b.now + deadline) = run at hrun ⊢
  obtain ⟨source, progress, now, log⟩ := run
  -- what else goes on at the bench while the key is waited for does not touch the keys
  have hwaited :=
    (calm_advance { b with source := source, log := b.log ++ log } (now - b.now)).aside
  generalize advance { b with source := source, log := b.log ++ log } (now - b.now) = waited
    at hwaited ⊢
  have hv : k.Valid origin waited.net := hvalid.congr hwaited.options
  have hs : waited.source = source := hwaited.source
  dsimp only at hrun
  rw [← hs] at hrun
  obtain ⟨hsource, hprogress⟩ := hrun
  cases progress with
  | pursuing p => exact Books.leave hsource (Pursuit.Behind.le hprogress) hv
  | got key =>
    have hspend : ∀ {done : Bench} (r : Except Agent.Error Nat), Aside _ done → _ :=
      fun r ha => Books.spend hsource hprogress hv ha r
    dsimp only
    rcases hfinish : Agent.build waited.net waited.settings key with ⟨net, built⟩
    rw [hfinish] at hspend
    cases built with
    | notStarted cause => exact hspend _ (.refl _)
    | halfBuilt id cause => exact hspend _ (calm_settle _).aside
    | ready id listener =>
      let established : Bench :=
        { waited with net := net, log := waited.log ++ [establishedEntry waited.settings] }
      have hserves := (established.calm_serve listener 0 true).aside
      exact hspend _ ⟨hserves.source, hserves.options⟩

end Bench

/-! ## Many builds -/

/-- What can be done on a bench on which sessions are built. -/
inductive Errand
  /-- A session is asked for, and waited for so many milliseconds. -/
  | build (deadline : Nat)
  | advance (time : Nat)
  | close (session : Nat)
  | failNextStarts (count : Nat)
  | failListen (fail : Bool)
  deriving DecidableEq, Repr

namespace Bench

def perform (b : Bench) : Errand → Bench
  | .build deadline => (b.build deadline).1
  | .advance time => b.advance time
  | .close session => (b.close session).1
  | .failNextStarts count => b.onNet (·.failNextStarts count)
  | .failListen fail => b.onNet (·.setFailListen fail)

/-- The bench behind some errands. -/
def run (b : Bench) (errands : List Errand) : Bench := errands.foldl perform b

/-- An errand that is a build had its key in time. -/
def hasKey (b : Bench) : Errand → Bool
  | .build deadline => (b.build deadline).2.isSome
  | _ => false

/-- The number of builds among some errands that had their key in time. -/
def keyed (b : Bench) : List Errand → Nat
  | [] => 0
  | x :: errands => (b.hasKey x).toNat + (b.perform x).keyed errands

variable {b : Bench} {origin : Source} {k : Ledger}

theorem Books.perform (h : b.Books origin k) (x : Errand) :
    ∃ k', k.Extends k' ∧ (b.perform x).Books origin k' ∧
      k'.spent.length = k.spent.length + (b.hasKey x).toNat := by
  cases x with
  | build deadline =>
    obtain ⟨k', hk, hb, hs⟩ := h.build deadline
    refine ⟨k', hk, hb, ?_⟩
    show k'.spent.length = k.spent.length + (b.build deadline).2.isSome.toNat
    generalize (b.build deadline).2 = result at hs ⊢
    cases result with
    | none => exact congrArg List.length hs
    | some r =>
      rw [hs.1, List.length_append]
      rfl
  | advance time => exact ⟨k, .refl k, h.aside (b.calm_advance time).aside, rfl⟩
  | close session => exact ⟨k, .refl k, h.aside (b.aside_close session), rfl⟩
  | failNextStarts _ | failListen _ => exact ⟨k, .refl k, h.aside ⟨rfl, rfl⟩, rfl⟩

theorem Books.run (h : b.Books origin k) (errands : List Errand) :
    ∃ k', k.Extends k' ∧ (b.run errands).Books origin k' ∧
      k'.spent.length = k.spent.length + b.keyed errands := by
  induction errands generalizing b k with
  | nil => exact ⟨k, .refl k, h, rfl⟩
  | cons x errands ih =>
    obtain ⟨k₁, hk₁, hb₁, hcount₁⟩ := h.perform x
    obtain ⟨k₂, hk₂, hb₂, hcount₂⟩ := ih hb₁
    refine ⟨k₂, hk₁.trans hk₂, hb₂, ?_⟩
    calc k₂.spent.length
      _ = k.spent.length + (b.hasKey x).toNat + (b.perform x).keyed errands := by
        rw [hcount₂, hcount₁]
      _ = k.spent.length + b.keyed (x :: errands) := Nat.add_assoc _ _ _

end Bench

end Tether.Sim
