import Tether.Proofs.Sim.Queues

/-!
Where connections go. All that a network in memory does with a connection is told by the events that
were left behind before (`Delivers`): a dial goes to the listener that listened last on the port, as
long as its owner has it, and to the fallback if nobody ever listened there; a listener hands out
what was dialed to it, in the order of the dials, each connection once; and when it has handed out
everything and nothing can come any more, it says so, for good. `deliveries` is this for whatever is
done with a network, from its beginning.
-/

namespace Tether.Sim.Network

open Tether.Net Tether.Overlay

/-- No connection comes to a listener any more: its session was closed, or another listener listened
on its port after it. -/
inductive Cut (h : List Event) (l : Nat) : Prop
  | closed {id : Nat} {port : UInt16} : .listened id port l ∈ h → .closed id ∈ h → Cut h l
  | replaced {id l' : Nat} {port : UInt16} : .listened id port l ∈ h →
      latest? h id port = some l' → l' ≠ l → Cut h l

/-- The dial connects. -/
def Dialed.connects : Dialed → Bool
  | .refused => false
  | .queued _ _ => true
  | .asked _ routing => routing.isIntercept

/-- What a network does with connections is what the events tell. -/
structure Delivers (n : Network) (h : List Event) : Prop where
  /-- A dial connects if the session is open and the listener that listened last on the port is
  there, or nobody ever listened on it and the fallback takes the connection. -/
  dial_connects : ∀ id src dst, (n.dial id src dst).2.connects = true ↔ Opened h id ∧
    ((∃ l, latest? h id dst.port = some l ∧ .released l ∉ h) ∨
      latest? h id dst.port = none ∧
        ∃ f, handler? h id = some f ∧ (f.route src dst).isIntercept = true)
  /-- The fallback is asked if the session is open and nobody ever listened on the port. -/
  asks : ∀ id src dst routing, (∃ c, (n.dial id src dst).2 = .asked c routing) ↔ Opened h id ∧
    latest? h id dst.port = none ∧ ∃ f, handler? h id = some f ∧ f.route src dst = routing
  /-- What was dialed to a listener has the dialer as its source, and the listener was the last one
  on the port. -/
  dialed : ∀ newer older id src dst c l, h = newer ++ .dialed id src dst (.queued c l) :: older →
    c.source = src ∧ Opened older id ∧ latest? older id dst.port = some l ∧ .released l ∉ older
  /-- Every dial makes a connection of its own. -/
  apart : ((sent h).map (·.2.id)).Nodup
  /-- Every connection is returned at most once. -/
  once : ((handed h).map (·.2.id)).Nodup
  /-- A listener returned the first of those that were dialed to it. -/
  inOrder : ∀ l, ofListener l (handed h) <+: ofListener l (sent h)
  /-- It returns next the first one that it did not return yet. -/
  accept_next : ∀ l c, .released l ∉ h → ((n.accept l).2 = .connection c ↔
    ∃ rest, ofListener l (sent h) = ofListener l (handed h) ++ c :: rest)
  /-- It has none any more if it returned all that were dialed to it and is cut off. -/
  accept_closed : ∀ l id port, .listened id port l ∈ h → .released l ∉ h →
    ((n.accept l).2 = .closed ↔ ofListener l (handed h) = ofListener l (sent h) ∧ Cut h l)
  /-- From then on it never has one, whatever is done. -/
  closed_for_good : ∀ l id port, .listened id port l ∈ h → (n.accept l).2 = .closed →
    ∀ ops : List Op, ((ops.foldl perform n).accept l).2 = .closed

variable {n n' : Network} {h : List Event} {id l : Nat} {port : UInt16} {s : Session}

/-! ## All of it -/

/-- Every dial that reached a listener came from its source, and found the listener to be the last
one on the port. -/
def Sourced (h : List Event) : Prop :=
  ∀ newer older id src dst c l, h = newer ++ .dialed id src dst (.queued c l) :: older →
    c.source = src ∧ Opened older id ∧ latest? older id dst.port = some l ∧ .released l ∉ older

/-- The network is what the events tell of it. -/
structure Agrees (n : Network) (h : List Event) : Prop extends Known n h, Queues n h where
  sourced : Sourced h

namespace Agrees

theorem opened_iff (ha : Agrees n h) :
    Opened h id ↔ ∃ s, n.session? id = some s ∧ s.closed = false := by
  unfold Opened
  rw [← ha.started, ← ha.closed]
  cases n.session? id with
  | none => simp
  | some s => simp

theorem not_opened (ha : Agrees n h) (hs : n.isOpen id = false) : ¬ Opened h id := by
  rw [ha.opened_iff, ← isOpen_eq_true_iff, hs]
  exact Bool.false_ne_true

/-- In an open session the ports and the fallback are those of the last events. -/
theorem of_open (ha : Agrees n h) (hs : n.session? id = some s) (hc : s.closed = false) :
    Opened h id ∧ (∀ port, s.listenerOn port = latest? h id port) ∧ s.fallback = handler? h id := by
  have hopen := ha.opened_iff.2 ⟨s, hs, hc⟩
  refine ⟨hopen, ?_, ?_⟩
  · intro port
    have hp := ha.ports id port
    rw [hs, if_neg hopen.2] at hp
    exact hp
  · have hf := ha.fallback id
    rw [hs] at hf
    exact hf

theorem holds_iff (ha : Agrees n h) (hl : latest? h id port = some l) :
    n.holds l = true ↔ .released l ∉ h := by
  have hlt := (ha.listened l).1 ⟨id, port, mem_of_latest? hl⟩
  rw [ha.holds, and_iff_right hlt]

/-! ### Dials -/

variable (id) in
theorem dial_connects (ha : Agrees n h) (src dst : Endpoint) :
    (n.dial id src dst).2.connects = true ↔ Opened h id ∧
      ((∃ l, latest? h id dst.port = some l ∧ .released l ∉ h) ∨
        latest? h id dst.port = none ∧
          ∃ f, handler? h id = some f ∧ (f.route src dst).isIntercept = true) := by
  have hdials := n.dials_dial id src dst
  generalize n.dial id src dst = r at hdials
  cases hdials with
  | shut hs => simp [Dialed.connects, ha.not_opened hs]
  | queued hs hc hl hheld =>
    obtain ⟨hopen, hports, -⟩ := ha.of_open hs hc
    rw [hports] at hl
    simp [Dialed.connects, hopen, hl, (ha.holds_iff hl).1 hheld]
  | @dropped s l hs hc hl hheld =>
    obtain ⟨-, hports, -⟩ := ha.of_open hs hc
    rw [hports] at hl
    have hreleased : .released l ∈ h := by
      by_contra hnot
      exact absurd ((ha.holds_iff hl).2 hnot) (by rw [hheld]; exact Bool.false_ne_true)
    simp [Dialed.connects, hl, hreleased]
  | unheard hs hc hl hf =>
    obtain ⟨-, hports, hfallback⟩ := ha.of_open hs hc
    rw [hports] at hl
    rw [hfallback] at hf
    simp [Dialed.connects, hl, hf]
  | asked hs hc hl hf =>
    obtain ⟨hopen, hports, hfallback⟩ := ha.of_open hs hc
    rw [hports] at hl
    rw [hfallback] at hf
    simp [Dialed.connects, hopen, hl, hf]

variable (id) in
theorem asks (ha : Agrees n h) (src dst : Endpoint) (routing : Routing Fallback) :
    (∃ c, (n.dial id src dst).2 = .asked c routing) ↔ Opened h id ∧
      latest? h id dst.port = none ∧ ∃ f, handler? h id = some f ∧ f.route src dst = routing := by
  have hdials := n.dials_dial id src dst
  generalize n.dial id src dst = r at hdials
  cases hdials with
  | shut hs => simp [ha.not_opened hs]
  | queued hs hc hl _ =>
    rw [(ha.of_open hs hc).2.1] at hl
    simp [hl]
  | dropped hs hc hl _ =>
    rw [(ha.of_open hs hc).2.1] at hl
    simp [hl]
  | unheard hs hc hl hf =>
    rw [(ha.of_open hs hc).2.2] at hf
    simp [hf]
  | asked hs hc hl hf =>
    obtain ⟨hopen, hports, hfallback⟩ := ha.of_open hs hc
    rw [hports] at hl
    rw [hfallback] at hf
    simp [hopen, hl, hf]

theorem queued (ha : Agrees n h) {src dst : Endpoint} {c : Connection}
    (hr : (n.dial id src dst).2 = .queued c l) :
    c.source = src ∧ Opened h id ∧ latest? h id dst.port = some l ∧ .released l ∉ h := by
  have hdials := n.dials_dial id src dst
  generalize n.dial id src dst = r at hdials hr
  cases hdials with
  | queued hs hc hl hheld =>
    cases hr
    obtain ⟨hopen, hports, -⟩ := ha.of_open hs hc
    rw [hports] at hl
    exact ⟨rfl, hopen, hl, (ha.holds_iff hl).1 hheld⟩
  | _ => cases hr

theorem perform (ha : Agrees n h) (op : Op) :
    Agrees (n.perform op) ((n.event? op).toList ++ h) := by
  refine ⟨ha.toKnown.perform op, ha.toQueues.perform op, ?_⟩
  intro newer older id src dst c l he
  cases hevent : n.event? op with
  | none =>
    rw [hevent] at he
    exact ha.sourced newer older id src dst c l he
  | some e =>
    rw [hevent] at he
    cases newer with
    | cons e' newer =>
      exact ha.sourced newer older id src dst c l (List.cons.inj he).2
    | nil =>
      obtain ⟨rfl, rfl⟩ := List.cons.inj he
      cases op with
      | dial id' src' dst' =>
        obtain ⟨rfl, rfl, rfl, hr⟩ := Event.dialed.inj (Option.some.inj hevent)
        exact ha.queued hr
      | start _ | close _ | register _ _ | listen _ _ | release _ =>
        obtain ⟨_, -, hne⟩ := Option.map_eq_some_iff.1 hevent
        cases hne
      | _ => cases hevent

theorem run (ops : List Op) (s : Network × List Event) (ha : Agrees s.1 s.2) :
    Agrees (ops.foldl record s).1 (ops.foldl record s).2 := by
  induction ops generalizing s with
  | nil => exact ha
  | cons op ops ih => exact ih (record s op) (ha.perform op)

/-! ### Accepts -/

/-- Connections can come to a listener as long as it is not cut off. -/
theorem isFed_iff (ha : Agrees n h) (hl : .listened id port l ∈ h) :
    n.isFed l = true ↔ ¬ Cut h l := by
  rw [Network.isFed_iff]
  constructor
  · rintro ⟨id', s, port', hs, hp⟩ hcut
    have hports := ha.ports id' port'
    have hlisten : s.listenerOn port' = some l := (lookup_eq_some_iff (ha.keys id' s hs)).2 hp
    rw [hs, Option.bind_some, hlisten] at hports
    split at hports
    · cases hports
    · rename_i hclosed
      have hmem := mem_of_latest? hports.symm
      cases hcut with
      | closed hl' hc =>
        obtain ⟨rfl, -⟩ := ha.owner l _ _ _ _ hmem hl'
        exact hclosed hc
      | replaced hl' hlatest hne =>
        obtain ⟨rfl, rfl⟩ := ha.owner l _ _ _ _ hmem hl'
        exact hne (Option.some.inj (hlatest.symm.trans hports.symm))
  · intro hcut
    have hclosed : .closed id ∉ h := fun hc => hcut (.closed hl hc)
    obtain ⟨l', hlatest⟩ := Option.isSome_iff_exists.1 (latest?_isSome hl)
    obtain rfl : l' = l := by
      by_contra hne
      exact hcut (.replaced hl hlatest hne)
    have hports := ha.ports id port
    rw [if_neg hclosed, hlatest] at hports
    obtain ⟨s, hs, hp⟩ := Option.bind_eq_some_iff.1 hports
    exact ⟨id, s, port, hs, (lookup_eq_some_iff (ha.keys id s hs)).1 hp⟩

theorem accept_next (ha : Agrees n h) {c : Connection} (hheld : .released l ∉ h) :
    (n.accept l).2 = .connection c ↔
      ∃ rest, ofListener l (sent h) = ofListener l (handed h) ++ c :: rest := by
  by_cases hlt : l < n.listeners.length
  · rw [ha.waiting l ((ha.holds l).2 ⟨hlt, hheld⟩)]
    simp only [List.append_cancel_left_eq]
    have haccepts := n.accepts_accept l
    generalize n.accept l = r at haccepts
    cases haccepts with
    | next hc => simp [hc]
    | pending hw _ => simp [hw]
    | closed hw _ _ => simp [hw]
    | absent hle => omega
  · have hnone := ha.ofListener_eq_nil (Nat.le_of_not_lt hlt)
    have haccept : (n.accept l).2 = .closed := by
      rw [accept, List.getElem?_eq_none (Nat.le_of_not_lt hlt)]
    simp [hnone, haccept]

theorem accept_closed (ha : Agrees n h) (hl : .listened id port l ∈ h) (hheld : .released l ∉ h) :
    (n.accept l).2 = .closed ↔ ofListener l (handed h) = ofListener l (sent h) ∧ Cut h l := by
  have hlt := (ha.listened l).1 ⟨id, port, hl⟩
  have hfed := ha.isFed_iff hl
  rw [ha.waiting l ((ha.holds l).2 ⟨hlt, hheld⟩), List.self_eq_append_right]
  have haccepts := n.accepts_accept l
  generalize n.accept l = r at haccepts
  cases haccepts with
  | next hc => simp [hc]
  | pending hw hf =>
    have hcut := hfed.1 hf
    simp [hcut]
  | closed hw _ hf =>
    rw [hf] at hfed
    have hcut : Cut h l := by
      by_contra hcut
      exact absurd (hfed.2 hcut) Bool.false_ne_true
    simp [hw, hcut]
  | absent hle => omega

end Agrees

/-! ## The end of a listener -/

/-- Nothing waits for a listener, and nothing can come to it. -/
structure Drained (n : Network) (l : Nat) : Prop where
  given : l < n.listeners.length
  waiting : n.waitingAt l = []
  unfed : n.isFed l = false

theorem drained_iff (hl : l < n.listeners.length) :
    n.Drained l ↔ (n.accept l).2 = .closed := by
  have haccepts := n.accepts_accept l
  generalize n.accept l = r at haccepts
  cases haccepts with
  | next hc =>
    refine iff_of_false (fun hd => ?_) (by simp)
    rw [hd.waiting] at hc
    cases hc
  | pending _ hf =>
    refine iff_of_false (fun hd => ?_) (by simp)
    rw [hd.unfed] at hf
    cases hf
  | closed hw _ hf => exact iff_of_true ⟨hl, hw, hf⟩ rfl
  | absent hle => omega

namespace Drained

theorem onward (hd : n.Drained l) (ho : Onward l [] n n') : n'.Drained l := by
  refine ⟨Nat.lt_of_lt_of_le hd.given ho.length, ?_, ?_⟩
  · rw [ho.waiting, hd.waiting, List.append_nil]
  · rw [← Bool.not_eq_true]
    intro hf
    exact absurd (ho.fed hf) (by rw [hd.unfed]; exact Bool.false_ne_true)

/-- Whatever is done, nothing comes to the listener. -/
theorem perform (hd : n.Drained l) (op : Op) : (n.perform op).Drained l := by
  by_cases hop : op.spares l = true
  · have ho := Onward.perform hd.given op hop
    have hnew : n.brings l op = [] := by
      by_contra hne
      exact absurd (ho.brought hne) (by rw [hd.unfed]; exact Bool.false_ne_true)
    rw [hnew] at ho
    exact hd.onward ho
  · cases op with
    | accept i =>
      obtain rfl : i = l := by simpa [Op.spares] using hop
      have haccepts := n.accepts_accept i
      show (n.accept i).1.Drained i
      generalize n.accept i = r at haccepts
      cases haccepts with
      | next hc =>
        rw [hd.waiting] at hc
        cases hc
      | pending _ _ | closed _ _ _ | absent _ => exact hd
    | release i =>
      obtain rfl : i = l := by simpa [Op.spares] using hop
      have hwaiting := waitingAt_modifyListener hd.given
        (f := fun x => { x with waiting := [], held := false }) (g := fun _ => []) (fun _ => rfl) i
      rw [if_pos rfl] at hwaiting
      refine ⟨?_, hwaiting, hd.unfed⟩
      show i < (n.modifyListener i _).listeners.length
      rw [length_modifyListener]
      exact hd.given
    | _ => exact absurd rfl hop

theorem run (hd : n.Drained l) (ops : List Op) : (ops.foldl Network.perform n).Drained l := by
  induction ops generalizing n with
  | nil => exact hd
  | cons op ops ih => exact ih (hd.perform op)

end Drained

/-! ## Deliveries -/

theorem agrees_recorded (ops : List Op) : Agrees (recorded ops).1 (recorded ops).2 := by
  refine Agrees.run ops ({}, []) ⟨.none, .none, ?_⟩
  intro newer older id src dst c l he
  cases newer <;> cases he

/-- Whatever was done with a network since its beginning, it does with connections what the events
tell. -/
theorem deliveries (ops : List Op) : Delivers (recorded ops).1 (recorded ops).2 := by
  have ha := agrees_recorded ops
  refine ⟨?_, ?_, ha.sourced, ha.distinct, ha.once, ha.inOrder, ?_, ?_, ?_⟩
  · intro id src dst
    exact ha.dial_connects id src dst
  · intro id src dst routing
    exact ha.asks id src dst routing
  · intro l c hheld
    exact ha.accept_next hheld
  · intro l id port hl hheld
    exact ha.accept_closed hl hheld
  · intro l id port hl hc ops'
    have hlt := (ha.listened l).1 ⟨id, port, hl⟩
    have hd := ((drained_iff hlt).2 hc).run ops'
    exact (drained_iff hd.given).1 hd

/-- A listener whose port another one took over still hands out what was dialed to it, and then has
none any more. -/
example :
    let peer (port : UInt16) : Endpoint := ⟨.v4 ⟨100, 64, 0, 1⟩, port⟩
    handed (recorded [.start ⟨"a", "u", false, "d", "k"⟩, .listen 1 80,
        .dial 1 (peer 1000) (peer 80), .listen 1 80, .dial 1 (peer 1001) (peer 80), .accept 0,
        .accept 0, .accept 1]).2 =
      [(0, ⟨0, peer 1000⟩), (1, ⟨1, peer 1001⟩)] := by
  decide

end Tether.Sim.Network
