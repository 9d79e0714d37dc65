import Tether.Proofs.Keys.Ledger
import Tether.Proofs.Lists

/-!
Networks that differ in the keys of their sessions. `Network.veil` covers the keys. An operation is
blind if it does the same to a veiled network, tells the same, and starts nothing (`Blind`). All are
but the start, which takes a key in. Two networks that look alike under their veils therefore stay
so whatever is done with them, and a build with two keys goes the same way on both: `Twin.build`.
-/

namespace Tether.Overlay

/-- The options with the key covered. -/
def Options.veil (o : Options) : Options := { o with authKey := redacted }

end Tether.Overlay

namespace Tether.Sim

open Tether.Agent Tether.Control Tether.Net Tether.Overlay

def Session.veil (s : Session) : Session := { s with options := s.options.veil }

namespace Network

/-- The network with the keys of all sessions covered. -/
def veil (n : Network) : Network := { n with sessions := n.sessions.map Session.veil }

/-- The keys that the sessions were started with, in their order. -/
def keys (n : Network) : List String := n.options.map Options.authKey

/-! ## Under the veil -/

theorem session?_veil (n : Network) (id : Nat) :
    n.veil.session? id = (n.session? id).map Session.veil := by
  cases id with
  | zero => rfl
  | succ i => exact List.getElem?_map

theorem isOpen_veil (n : Network) (id : Nat) : n.veil.isOpen id = n.isOpen id := by
  rw [isOpen_eq, isOpen_eq, session?_veil]
  cases n.session? id <;> rfl

theorem isFed_veil (n : Network) (listener : Nat) : n.veil.isFed listener = n.isFed listener := by
  unfold isFed veil
  rw [List.any_map]
  rfl

theorem veil_modifySession {f : Session → Session} (hf : ∀ s, (f s).veil = f s.veil) (n : Network)
    (id : Nat) : (n.modifySession id f).veil = n.veil.modifySession id f := by
  cases id with
  | zero => rfl
  | succ i => exact congrArg (fun sessions => { n with sessions := sessions }) (map_modify hf _ i)

/-! ## Operations that do not look under it -/

/-- The veil makes no difference to an operation, and no session is started. -/
structure Blind {α : Type} (op : Network → Network × α) : Prop where
  veil : ∀ n : Network, op n.veil = ((op n).1.veil, (op n).2)
  options : ∀ n : Network, (op n).1.options = n.options

theorem blind_close (id : Nat) : Blind (close · id) where
  veil n := by
    unfold close
    rw [isOpen_veil]
    split
    · rw [veil_modifySession (f := Session.close) fun _ => rfl]
    · rfl
  options n := options_close n id

theorem blind_listen (id : Nat) (port : UInt16) : Blind (listen · id port) where
  veil n := by
    have hassign := veil_modifySession (f := (·.assign port n.listeners.length)) (fun _ => rfl) n id
    unfold listen
    rw [isOpen_veil]
    by_cases hclosed : (!n.isOpen id) = true
    · rw [if_pos hclosed, if_pos hclosed]
    · rw [if_neg hclosed, if_neg hclosed]
      by_cases hfail : n.failListen = true
      · rw [if_pos hfail, if_pos (show n.veil.failListen = true from hfail)]
      · rw [if_neg hfail, if_neg (show ¬n.veil.failListen = true from hfail)]
        dsimp only
        rw [show n.veil.listeners = n.listeners from rfl, ← hassign]
        rfl
  options n := options_listen n id port

theorem blind_setFallback (id : Nat) (f : Fallback) :
    Blind fun n => (n.setFallback id f, ()) where
  veil n := by
    unfold setFallback
    rw [veil_modifySession (f := ({ · with fallback := some f })) fun _ => rfl]
  options n := options_setFallback n id f

theorem blind_dial (id : Nat) (src dst : Endpoint) : Blind (dial · id src dst) where
  veil n := by
    unfold dial
    rw [session?_veil]
    cases n.session? id with
    | none => rfl
    | some s =>
      dsimp only [Option.map_some]
      by_cases hclosed : s.closed = true
      · rw [if_pos hclosed, if_pos (show s.veil.closed = true from hclosed)]
      · rw [if_neg hclosed, if_neg (show ¬s.veil.closed = true from hclosed)]
        rw [show s.veil.listenerOn dst.port = s.listenerOn dst.port from rfl,
          show s.veil.fallback = s.fallback from rfl]
        cases s.listenerOn dst.port with
        | some l =>
          dsimp only
          rw [show n.veil.listeners = n.listeners from rfl]
          split
          · rfl
          · rfl
        | none => cases s.fallback <;> rfl
  options n := by
    apply options_congr
    unfold dial
    split
    · rfl
    · split
      · rfl
      · dsimp only
        split
        · split <;> rfl
        · split <;> rfl

theorem blind_accept (listener : Nat) : Blind (accept · listener) where
  veil n := by
    unfold accept
    rw [isFed_veil, show n.veil.listeners = n.listeners from rfl]
    split
    · rfl
    · split <;> rfl
  options n := by
    unfold accept
    split
    · rfl
    · split <;> rfl

theorem blind_release (listener : Nat) : Blind (release · listener) := ⟨fun _ => rfl, fun _ => rfl⟩

theorem blind_localClient : Blind localClient where
  veil n := by
    unfold localClient
    rw [show n.veil.health = n.health from rfl]
    split <;> rfl
  options n := options_congr (sessions_localClient n)

theorem blind_status (id : Nat) : Blind (status · id) where
  veil n := by
    have hopen : { n.veil with healthChecks := n.veil.healthChecks + 1 }.isOpen id =
        { n with healthChecks := n.healthChecks + 1 }.isOpen id :=
      isOpen_veil { n with healthChecks := n.healthChecks + 1 } id
    unfold status
    dsimp only
    rw [hopen, show n.veil.health = n.health from rfl]
    split
    · rfl
    · cases n.health with
      | nil => rfl
      | cons o rest => cases o <;> rfl
  options n := options_congr (sessions_status n id)

theorem blind_checkHealth (current : Option Nat) : Blind (checkHealth · current) where
  veil n := by
    cases current with
    | none => rfl
    | some id =>
      unfold checkHealth
      dsimp only
      rw [blind_localClient.veil]
      generalize n.localClient = asked
      obtain ⟨net, cause | u⟩ := asked
      · rfl
      · dsimp only
        rw [(blind_status id).veil]
        generalize net.status id = answered
        obtain ⟨net', cause | status⟩ := answered
        · rfl
        · rfl
  options n := options_congr (sessions_checkHealth n current)

theorem blind_scriptHealth (outcomes : List HealthOutcome) :
    Blind fun n => (n.scriptHealth outcomes, ()) := ⟨fun _ => rfl, fun _ => rfl⟩

theorem blind_failNextStarts (count : Nat) : Blind fun n => (n.failNextStarts count, ()) :=
  ⟨fun _ => rfl, fun _ => rfl⟩

theorem blind_setFailListen (fail : Bool) : Blind fun n => (n.setFailListen fail, ()) :=
  ⟨fun _ => rfl, fun _ => rfl⟩

/-- The start of a session takes a key in and does not look at it. -/
theorem veil_start (n : Network) (o : Options) :
    n.veil.start o.veil = ((n.start o).1.veil, (n.start o).2) := by
  unfold start
  rw [show n.veil.startFailures = n.startFailures from rfl]
  split
  · rfl
  · unfold veil
    dsimp only
    rw [List.map_append, List.length_map]
    rfl

/-! ## Networks that look alike -/

/-- Two networks look alike under their veils, and each key of one stands for one of the other. -/
structure Twin (P : String → String → Prop) (n n' : Network) : Prop where
  veil : n'.veil = n.veil
  keys : List.Forall₂ P n.keys n'.keys

variable {P : String → String → Prop} {n n' : Network}

theorem Blind.twin {α : Type} {op : Network → Network × α} (hop : Blind op) (h : n.Twin P n') :
    (op n).1.Twin P (op n').1 ∧ (op n').2 = (op n).2 := by
  have hsame : ((op n').1.veil, (op n').2) = ((op n).1.veil, (op n).2) :=
    (hop.veil n').symm.trans ((congrArg op h.veil).trans (hop.veil n))
  obtain ⟨hveil, htold⟩ := Prod.mk.inj hsame
  refine ⟨⟨hveil, ?_⟩, htold⟩
  unfold keys
  rw [hop.options n, hop.options n']
  exact h.keys

namespace Twin

/-- What the veil makes no difference to is the same of both. -/
theorem told (h : n.Twin P n') {α : Type} {f : Network → α} (hf : ∀ n, f n.veil = f n) :
    f n' = f n := by rw [← hf n', h.veil, hf n]

theorem isListening (h : n.Twin P n') (id : Nat) (port : UInt16) :
    (n'.session? id).any (·.isListening port) = (n.session? id).any (·.isListening port) := by
  refine h.told (f := fun n => (n.session? id).any (·.isListening port)) fun n => ?_
  rw [session?_veil]
  cases n.session? id <;> rfl

theorem start (h : n.Twin P n') {o o' : Options} (ho : o'.veil = o.veil)
    (hkey : P o.authKey o'.authKey) :
    (n.start o).1.Twin P (n'.start o').1 ∧ (n'.start o').2 = (n.start o).2 := by
  have hsame : ((n'.start o').1.veil, (n'.start o').2) = ((n.start o).1.veil, (n.start o).2) := by
    rw [← veil_start, ← veil_start, h.veil, ho]
  obtain ⟨hveil, hid⟩ := Prod.mk.inj hsame
  refine ⟨⟨hveil, ?_⟩, hid⟩
  unfold Network.keys
  rw [options_start, options_start, hid, List.map_append, List.map_append]
  refine List.rel_append h.keys ?_
  cases (n.start o).2.isOk with
  | true => exact .cons hkey .nil
  | false => exact .nil

/-- A build with a key and one with another come to the same. -/
theorem build (h : n.Twin P n') (settings : Settings) {key key' : Key}
    (hkey : P key.text key'.text) :
    (Agent.build n settings key).1.Twin P (Agent.build n' settings key').1 ∧
      (Agent.build n' settings key').2 = (Agent.build n settings key).2 := by
  have hstarted :=
    h.start (show (settings.options key').veil = (settings.options key).veil from rfl) hkey
  unfold Agent.build
  generalize n.start (settings.options key) = started,
    n'.start (settings.options key') = started' at hstarted ⊢
  obtain ⟨net', r⟩ := started'
  obtain ⟨net, cause | id⟩ := started
  · obtain ⟨hnet, hid⟩ := hstarted
    cases hid
    exact ⟨hnet, rfl⟩
  · obtain ⟨hnet, hid⟩ := hstarted
    cases hid
    have hequipped := ((blind_setFallback id .relay).twin hnet).1
    have hheard := (blind_listen id settings.livenessPort).twin hequipped
    dsimp only at hheard ⊢
    generalize (net.setFallback id .relay).listen id settings.livenessPort = heard,
      (net'.setFallback id .relay).listen id settings.livenessPort = heard' at hheard ⊢
    obtain ⟨net₁', r⟩ := heard'
    obtain ⟨net₁, cause | listener⟩ := heard
    · obtain ⟨hnet₁, hlistener⟩ := hheard
      cases hlistener
      exact ⟨((blind_close id).twin hnet₁).1, rfl⟩
    · obtain ⟨hnet₁, hlistener⟩ := hheard
      cases hlistener
      exact ⟨hnet₁, rfl⟩

end Twin

end Network

end Tether.Sim
