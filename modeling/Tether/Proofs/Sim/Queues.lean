import Tether.Proofs.Sim.Events

/-!
The listeners of a network in memory, by the events that it leaves behind. A listener holds what was
dialed to it and not returned yet, in the order of the dials (`Queues`); this is so from the
beginning, and every dial, accept and release keeps it so.
-/

namespace Tether.Sim.Network

open Tether.Net Tether.Overlay

variable {n n' : Network} {h : List Event} {id l : Nat} {port : UInt16} {s : Session}

/-! ## Dials and accepts -/

/-- The owner of a listener has it. -/
def holds (n : Network) (l : Nat) : Bool := (n.listeners[l]?.map Listener.held).getD false

/-- The connections that wait for a listener. -/
def waitingAt (n : Network) (l : Nat) : List Connection :=
  (n.listeners[l]?.map Listener.waiting).getD []

/-- A listener is changed. -/
def modifyListener (n : Network) (l : Nat) (f : Listener → Listener) : Network :=
  { n with listeners := n.listeners.modify l f }

/-- A listener is added. -/
def addListener (n : Network) (port : UInt16) : Network :=
  { n with listeners := n.listeners ++ [⟨port, [], true⟩] }

/-- Another number is given to a connection. -/
def count (n : Network) : Network := { n with dials := n.dials + 1 }

/-- All that a dial can come to. -/
inductive Dials (n : Network) (id : Nat) (src dst : Endpoint) : Network × Dialed → Prop
  | shut : n.isOpen id = false → Dials n id src dst (n, .refused)
  | queued {s : Session} {l : Nat} : n.session? id = some s → s.closed = false →
      s.listenerOn dst.port = some l → n.holds l = true →
      Dials n id src dst
        (n.count.modifyListener l fun x => { x with waiting := x.waiting ++ [⟨n.dials, src⟩] },
          .queued ⟨n.dials, src⟩ l)
  | dropped {s : Session} {l : Nat} : n.session? id = some s → s.closed = false →
      s.listenerOn dst.port = some l → n.holds l = false →
      Dials n id src dst (n.count, .refused)
  | unheard {s : Session} : n.session? id = some s → s.closed = false →
      s.listenerOn dst.port = none → s.fallback = none → Dials n id src dst (n.count, .refused)
  | asked {s : Session} {f : Fallback} : n.session? id = some s → s.closed = false →
      s.listenerOn dst.port = none → s.fallback = some f →
      Dials n id src dst (n.count, .asked ⟨n.dials, src⟩ (f.route src dst))

theorem dials_dial (n : Network) (id : Nat) (src dst : Endpoint) :
    Dials n id src dst (n.dial id src dst) := by
  unfold dial
  split
  · rename_i hs
    apply Dials.shut
    rw [isOpen_eq, hs]
    rfl
  · rename_i s hs
    split
    · rename_i hc
      apply Dials.shut
      rw [isOpen_eq, hs]
      simp [hc]
    · rename_i hc
      rw [Bool.not_eq_true] at hc
      dsimp only
      split
      · rename_i l hl
        split
        · rename_i hheld
          exact .queued hs hc hl hheld
        · rename_i hheld
          exact .dropped hs hc hl (Bool.not_eq_true _ ▸ hheld)
      · rename_i hl
        split
        · rename_i f hf
          exact .asked hs hc hl hf
        · rename_i hf
          exact .unheard hs hc hl hf

/-- All that an accept can come to. -/
inductive Accepts (n : Network) (l : Nat) : Network × Accepted → Prop
  | next {c : Connection} {rest : List Connection} : n.waitingAt l = c :: rest →
      Accepts n l (n.modifyListener l ({ · with waiting := rest }), .connection c)
  | pending : n.waitingAt l = [] → n.isFed l = true → Accepts n l (n, .pending)
  | closed : n.waitingAt l = [] → l < n.listeners.length → n.isFed l = false →
      Accepts n l (n, .closed)
  | absent : n.listeners.length ≤ l → Accepts n l (n, .closed)

theorem accepts_accept (n : Network) (l : Nat) : Accepts n l (n.accept l) := by
  unfold accept
  split
  · rename_i hx
    exact .absent (List.getElem?_eq_none_iff.1 hx)
  · rename_i x hx
    have hwaiting : n.waitingAt l = x.waiting := by
      rw [waitingAt, hx]
      rfl
    split
    · rename_i c rest he
      exact .next (hwaiting.trans he)
    · rename_i he
      split
      · rename_i hfed
        exact .pending (hwaiting.trans he) hfed
      · rename_i hfed
        exact .closed (hwaiting.trans he) (List.getElem?_eq_some_iff.1 hx).1
          (Bool.not_eq_true _ ▸ hfed)

theorem lt_of_holds (hl : n.holds l = true) : l < n.listeners.length := by
  by_contra hlt
  rw [holds, List.getElem?_eq_none (Nat.le_of_not_lt hlt)] at hl
  cases hl

theorem waitingAt_of_le (hl : n.listeners.length ≤ l) : n.waitingAt l = [] := by
  rw [waitingAt, List.getElem?_eq_none hl]
  rfl

theorem holds_addListener (n : Network) (port : UInt16) (l : Nat) :
    (n.addListener port).holds l = if l = n.listeners.length then true else n.holds l := by
  unfold holds addListener
  rw [List.getElem?_append]
  by_cases hl : l < n.listeners.length
  · rw [if_pos hl, if_neg (Nat.ne_of_lt hl)]
  · rw [if_neg hl, List.getElem?_eq_none (Nat.le_of_not_lt hl)]
    by_cases he : l = n.listeners.length
    · simp [he]
    · rw [if_neg he, List.getElem?_eq_none (by simp; omega)]

@[simp] theorem listeners_count (n : Network) : n.count.listeners = n.listeners := rfl

theorem length_addListener (n : Network) (port : UInt16) :
    (n.addListener port).listeners.length = n.listeners.length + 1 := by
  simp [addListener]

@[simp] theorem length_modifyListener (n : Network) (l : Nat) (f : Listener → Listener) :
    (n.modifyListener l f).listeners.length = n.listeners.length := List.length_modify _ _ _

theorem waitingAt_addListener (n : Network) (port : UInt16) (l : Nat) :
    (n.addListener port).waitingAt l = n.waitingAt l := by
  unfold waitingAt addListener
  rw [List.getElem?_append]
  by_cases hl : l < n.listeners.length
  · rw [if_pos hl]
  · rw [if_neg hl, List.getElem?_eq_none (Nat.le_of_not_lt hl)]
    cases l - n.listeners.length <;> rfl

theorem holds_modifyListener {f : Listener → Listener} {i : Nat} (hi : i < n.listeners.length)
    {g : Bool → Bool} (hf : ∀ x, (f x).held = g x.held) (l : Nat) :
    (n.modifyListener i f).holds l = if i = l then g (n.holds l) else n.holds l := by
  unfold holds modifyListener
  rw [List.getElem?_modify]
  by_cases he : i = l
  · subst he
    rw [List.getElem?_eq_getElem hi]
    simp [hf]
  · simp [he]

theorem waitingAt_modifyListener {f : Listener → Listener} {i : Nat}
    (hi : i < n.listeners.length) {g : List Connection → List Connection}
    (hf : ∀ x, (f x).waiting = g x.waiting) (l : Nat) :
    (n.modifyListener i f).waitingAt l = if i = l then g (n.waitingAt l) else n.waitingAt l := by
  unfold waitingAt modifyListener
  rw [List.getElem?_modify]
  by_cases he : i = l
  · subst he
    rw [List.getElem?_eq_getElem hi]
    simp [hf]
  · simp [he]

/-! ## Listeners -/

/-- The listeners are as they were, and no number is given to a connection again. -/
structure Idle (n n' : Network) : Prop where
  listeners : n'.listeners = n.listeners
  dials : n.dials ≤ n'.dials

theorem Idle.refl (n : Network) : n.Idle n := ⟨rfl, Nat.le_refl _⟩

theorem idle_count (n : Network) : n.Idle n.count := ⟨rfl, Nat.le_succ _⟩

theorem idle_modifySession (n : Network) (id : Nat) (f : Session → Session) :
    n.Idle (n.modifySession id f) := by
  cases id with
  | zero => exact .refl n
  | succ i => exact ⟨rfl, Nat.le_refl _⟩

theorem idle_start (n : Network) (options : Options) : n.Idle (n.start options).1 := by
  unfold start
  split
  · exact ⟨rfl, Nat.le_refl _⟩
  · exact ⟨rfl, Nat.le_refl _⟩

theorem idle_close (n : Network) (id : Nat) : n.Idle (n.close id).1 := by
  unfold close
  split
  · exact n.idle_modifySession id _
  · exact .refl n

theorem idle_localClient (n : Network) : n.Idle n.localClient.1 := by
  unfold localClient
  split
  · exact ⟨rfl, Nat.le_refl _⟩
  · exact .refl n

theorem idle_status (n : Network) (id : Nat) : n.Idle (n.status id).1 := by
  unfold status
  dsimp only
  split
  · exact ⟨rfl, Nat.le_refl _⟩
  · cases n.health with
    | nil => exact ⟨rfl, Nat.le_refl _⟩
    | cons o rest => cases o <;> exact ⟨rfl, Nat.le_refl _⟩

/-- The listeners are what the events tell of them. -/
structure Queues (n : Network) (h : List Event) : Prop where
  /-- Their numbers are those that were given out. -/
  listened : ∀ l, (∃ id port, .listened id port l ∈ h) ↔ l < n.listeners.length
  /-- Each was given out once. -/
  owner : ∀ l id id' port port', .listened id port l ∈ h → .listened id' port' l ∈ h →
    id = id' ∧ port = port'
  released_lt : ∀ l, .released l ∈ h → l < n.listeners.length
  holds : ∀ l, n.holds l = true ↔ l < n.listeners.length ∧ .released l ∉ h
  /-- What waits was dialed and not returned. -/
  waiting : ∀ l, n.holds l = true →
    ofListener l (sent h) = ofListener l (handed h) ++ n.waitingAt l
  let_go : ∀ l, n.holds l = false → n.waitingAt l = []
  inOrder : ∀ l, ofListener l (handed h) <+: ofListener l (sent h)
  /-- Connections have numbers of their own. -/
  numbers : ∀ x ∈ sent h, x.1 < n.listeners.length ∧ x.2.id < n.dials
  distinct : ((sent h).map (·.2.id)).Nodup
  once : ((handed h).map (·.2.id)).Nodup

/-- Events that are not about listeners. -/
def Event.isQuiet : Event → Bool
  | .listened .. | .released _ | .dialed _ _ _ (.queued _ _) | .accepted _ (.connection _) => false
  | _ => true

theorem Event.isQuiet_spec {e : Event} (he : e.isQuiet = true) :
    e.sent? = none ∧ e.handed? = none ∧ (∀ id port l, e ≠ .listened id port l) ∧
      ∀ l, e ≠ .released l := by
  cases e with
  | dialed id src dst r => cases r <;> simp_all [Event.isQuiet, Event.sent?, Event.handed?]
  | accepted l r => cases r <;> simp_all [Event.isQuiet, Event.sent?, Event.handed?]
  | _ => simp_all [Event.isQuiet, Event.sent?, Event.handed?]

namespace Queues

theorem none : Queues {} [] where
  listened l := by simp
  owner l id id' port port' hl := by cases hl
  released_lt l hl := by cases hl
  holds l := by simp [Network.holds]
  waiting l hl := by simp [Network.holds] at hl
  let_go l _ := by simp [waitingAt]
  inOrder l := List.prefix_refl _
  numbers x hx := by simp [sent] at hx
  distinct := List.nodup_nil
  once := List.nodup_nil

theorem congr (hq : Queues n h) (hi : n.Idle n') : Queues n' h := by
  obtain ⟨hl, hd⟩ := hi
  have hholds : ∀ l, n'.holds l = n.holds l := fun l => by rw [Network.holds, hl, Network.holds]
  have hwaiting : ∀ l, n'.waitingAt l = n.waitingAt l := fun l => by rw [waitingAt, hl, waitingAt]
  refine ⟨?_, hq.owner, ?_, ?_, ?_, ?_, hq.inOrder, ?_, hq.distinct, hq.once⟩
  · rw [hl]
    exact hq.listened
  · rw [hl]
    exact hq.released_lt
  · intro l
    rw [hholds, hl]
    exact hq.holds l
  · intro l
    rw [hholds, hwaiting]
    exact hq.waiting l
  · intro l
    rw [hholds, hwaiting]
    exact hq.let_go l
  · intro x hx
    rw [hl]
    exact ⟨(hq.numbers x hx).1, Nat.lt_of_lt_of_le (hq.numbers x hx).2 hd⟩

theorem quiet (hq : Queues n h) {e : Event} (he : e.isQuiet = true) : Queues n (e :: h) := by
  obtain ⟨hs, hh, hlistened, hreleased⟩ := Event.isQuiet_spec he
  have hsent : sent (e :: h) = sent h := by rw [sent_cons, hs, Option.toList_none, List.append_nil]
  have hhanded : handed (e :: h) = handed h := by
    rw [handed_cons, hh, Option.toList_none, List.append_nil]
  have hold : ∀ {id port l}, .listened id port l ∈ e :: h ↔ .listened id port l ∈ h := by
    intro id port l
    rw [List.mem_cons, or_iff_right (Ne.symm (hlistened id port l))]
  have hkept : ∀ {l}, .released l ∈ e :: h ↔ .released l ∈ h := by
    intro l
    rw [List.mem_cons, or_iff_right (Ne.symm (hreleased l))]
  refine ⟨?_, ?_, ?_, ?_, ?_, hq.let_go, ?_, ?_, ?_, ?_⟩
  · simpa only [hold] using hq.listened
  · simpa only [hold] using hq.owner
  · simpa only [hkept] using hq.released_lt
  · simpa only [hkept] using hq.holds
  · simpa only [hsent, hhanded] using hq.waiting
  · simpa only [hsent, hhanded] using hq.inOrder
  · simpa only [hsent] using hq.numbers
  · simpa only [hsent] using hq.distinct
  · simpa only [hhanded] using hq.once

theorem ofListener_eq_nil (hq : Queues n h) (hl : n.listeners.length ≤ l) :
    ofListener l (sent h) = [] := by
  rw [List.eq_nil_iff_forall_not_mem]
  intro c hc
  have := (hq.numbers _ (mem_ofListener.1 hc)).1
  omega

/-- What changes nothing about listeners may leave an event that tells nothing about them. -/
theorem idle (hq : Queues n h) (hi : n.Idle n') {e? : Option Event}
    (he : ∀ e ∈ e?, e.isQuiet = true) : Queues n' (e?.toList ++ h) := by
  cases e? with
  | none => exact hq.congr hi
  | some e => exact (hq.congr hi).quiet (he e rfl)

theorem nodup_ofListener (hq : Queues n h) (l : Nat) : (ofListener l (sent h)).Nodup := by
  apply List.Nodup.filterMap _ (List.Nodup.of_map _ hq.distinct)
  intro x y c hx hy
  simp only [Option.mem_def, Option.ite_none_right_eq_some, Option.some.injEq] at hx hy
  exact Prod.ext (hx.1.trans hy.1.symm) (hx.2.trans hy.2.symm)

theorem listen (hq : Queues n h) (id : Nat) (port : UInt16) :
    Queues (n.addListener port) (.listened id port n.listeners.length :: h) := by
  have hlength := n.length_addListener port
  refine ⟨?_, ?_, ?_, ?_, ?_, ?_, ?_, ?_, hq.distinct, hq.once⟩
  · intro l
    rw [hlength]
    constructor
    · rintro ⟨id', port', hm⟩
      obtain he | hm := List.mem_cons.1 hm
      · cases he
        omega
      · have := (hq.listened l).1 ⟨_, _, hm⟩
        omega
    · intro hl
      by_cases he : l = n.listeners.length
      · exact ⟨id, port, by rw [he]; exact List.mem_cons_self⟩
      · obtain ⟨id', port', hm⟩ := (hq.listened l).2 (by omega)
        exact ⟨id', port', List.mem_cons_of_mem _ hm⟩
  · intro l id₁ id₂ port₁ port₂ h₁ h₂
    -- the number is new, so no earlier event has it
    have hfresh : ∀ {i p}, .listened i p n.listeners.length ∉ h := fun hm =>
      Nat.lt_irrefl _ ((hq.listened _).1 ⟨_, _, hm⟩)
    obtain he₁ | h₁ := List.mem_cons.1 h₁
    · cases he₁
      obtain he₂ | h₂ := List.mem_cons.1 h₂
      · cases he₂
        exact ⟨rfl, rfl⟩
      · exact absurd h₂ hfresh
    · obtain he₂ | h₂ := List.mem_cons.1 h₂
      · cases he₂
        exact absurd h₁ hfresh
      · exact hq.owner l id₁ id₂ port₁ port₂ h₁ h₂
  · intro l hl
    rw [hlength]
    have := hq.released_lt l (List.mem_of_ne_of_mem (fun he => by cases he) hl)
    omega
  · intro l
    rw [holds_addListener, hlength, List.mem_cons, not_or]
    have hold := hq.holds l
    by_cases he : l = n.listeners.length
    · subst he
      have hnot : .released n.listeners.length ∉ h := fun hm =>
        Nat.lt_irrefl _ (hq.released_lt _ hm)
      simp [hnot]
    · rw [if_neg he, hold]
      have : l < n.listeners.length ↔ l < n.listeners.length + 1 := by omega
      simp [this]
  · intro l hl
    rw [waitingAt_addListener]
    by_cases he : l = n.listeners.length
    · subst he
      have hsent := hq.ofListener_eq_nil (Nat.le_refl n.listeners.length)
      have hhanded := List.prefix_nil.1 (hsent ▸ hq.inOrder n.listeners.length)
      show ofListener _ (sent h) = ofListener _ (handed h) ++ _
      rw [hsent, hhanded, waitingAt_of_le (Nat.le_refl _), List.append_nil]
    · rw [holds_addListener, if_neg he] at hl
      exact hq.waiting l hl
  · intro l hl
    rw [waitingAt_addListener]
    rw [holds_addListener] at hl
    split at hl
    · cases hl
    · exact hq.let_go l hl
  · exact hq.inOrder
  · intro x hx
    rw [hlength]
    exact ⟨Nat.lt_succ_of_lt (hq.numbers x hx).1, (hq.numbers x hx).2⟩

theorem release (hq : Queues n h) (hl : l < n.listeners.length) :
    Queues (n.modifyListener l fun x => { x with waiting := [], held := false })
      (.released l :: h) := by
  have hholds := holds_modifyListener hl (f := fun x => { x with waiting := [], held := false })
    (g := fun _ => false) fun _ => rfl
  have hwaiting := waitingAt_modifyListener hl
    (f := fun x => { x with waiting := [], held := false }) (g := fun _ => []) fun _ => rfl
  refine ⟨?_, ?_, ?_, ?_, ?_, ?_, hq.inOrder, ?_, hq.distinct, hq.once⟩
  · simpa using hq.listened
  · simpa using hq.owner
  · intro i hi
    rw [length_modifyListener]
    obtain he | hi := List.mem_cons.1 hi
    · cases he
      exact hl
    · exact hq.released_lt i hi
  · intro i
    rw [hholds, length_modifyListener, List.mem_cons, not_or]
    have hold := hq.holds i
    by_cases he : l = i
    · simp [he]
    · simp [he, Ne.symm he, hold]
  · intro i hi
    rw [hholds] at hi
    rw [hwaiting]
    split at hi
    · cases hi
    · rename_i he
      rw [if_neg he]
      exact hq.waiting i hi
  · intro i hi
    rw [hholds] at hi
    rw [hwaiting]
    split at hi
    · rename_i he
      rw [if_pos he]
    · rename_i he
      rw [if_neg he]
      exact hq.let_go i hi
  · intro x hx
    rw [length_modifyListener]
    exact hq.numbers x hx

/-- Nothing is told about listeners but that one has another queue. -/
theorem requeue (hq : Queues n h) {e : Event} (hl : n.holds l = true)
    (he : (∀ id port i, e ≠ .listened id port i) ∧ ∀ i, e ≠ .released i)
    (hlength : n'.listeners.length = n.listeners.length) (hholds : ∀ i, n'.holds i = n.holds i)
    (hother : ∀ i, l ≠ i → n'.waitingAt i = n.waitingAt i)
    (hwaiting : ∀ i, n.holds i = true →
      ofListener i (sent (e :: h)) = ofListener i (handed (e :: h)) ++ n'.waitingAt i)
    (hinOrder : ∀ i, ofListener i (handed (e :: h)) <+: ofListener i (sent (e :: h)))
    (hnumbers : ∀ x ∈ sent (e :: h), x.1 < n.listeners.length ∧ x.2.id < n'.dials)
    (hdistinct : ((sent (e :: h)).map (·.2.id)).Nodup)
    (honce : ((handed (e :: h)).map (·.2.id)).Nodup) : Queues n' (e :: h) := by
  have hlistened : ∀ {id port i}, .listened id port i ∈ e :: h ↔ .listened id port i ∈ h := by
    intro id port i
    rw [List.mem_cons, or_iff_right (Ne.symm (he.1 id port i))]
  have hreleased : ∀ {i}, .released i ∈ e :: h ↔ .released i ∈ h := by
    intro i
    rw [List.mem_cons, or_iff_right (Ne.symm (he.2 i))]
  refine ⟨?_, ?_, ?_, ?_, ?_, ?_, hinOrder, ?_, hdistinct, honce⟩
  · simpa only [hlistened, hlength] using hq.listened
  · simpa only [hlistened] using hq.owner
  · simpa only [hreleased, hlength] using hq.released_lt
  · simpa only [hreleased, hlength, hholds] using hq.holds
  · simpa only [hholds] using hwaiting
  · intro i hi
    rw [hholds] at hi
    have hne : l ≠ i := by
      intro he
      subst he
      exact absurd (hl.symm.trans hi) (by decide)
    rw [hother i hne]
    exact hq.let_go i hi
  · rw [hlength]
    exact hnumbers

theorem send (hq : Queues n h) (hl : n.holds l = true) (id : Nat) (src dst : Endpoint) :
    Queues (n.count.modifyListener l fun x => { x with waiting := x.waiting ++ [⟨n.dials, src⟩] })
      (.dialed id src dst (.queued ⟨n.dials, src⟩ l) :: h) := by
  have hlt := lt_of_holds hl
  have hholds := holds_modifyListener (n := n.count) hlt
    (f := fun x => { x with waiting := x.waiting ++ [⟨n.dials, src⟩] }) (g := fun b => b)
    fun _ => rfl
  have hwaiting := waitingAt_modifyListener (n := n.count) hlt
    (f := fun x => { x with waiting := x.waiting ++ [⟨n.dials, src⟩] })
    (g := fun cs => cs ++ [⟨n.dials, src⟩]) fun _ => rfl
  simp only [ite_self] at hholds
  have hsent : sent (.dialed id src dst (.queued ⟨n.dials, src⟩ l) :: h) =
      sent h ++ [(l, ⟨n.dials, src⟩)] := sent_cons _ _
  have hhanded : handed (.dialed id src dst (.queued ⟨n.dials, src⟩ l) :: h) = handed h := by
    rw [handed_cons]
    exact List.append_nil _
  have hof : ∀ i, ofListener i (sent h ++ [(l, ⟨n.dials, src⟩)]) =
      ofListener i (sent h) ++ if l = i then [⟨n.dials, src⟩] else [] := fun i => by
    rw [ofListener_append, ofListener_single]
  refine hq.requeue hl ⟨nofun, nofun⟩ (length_modifyListener _ _ _) hholds ?_ ?_ ?_ ?_ ?_ ?_
  · intro i hne
    rw [hwaiting, if_neg hne]
    rfl
  · intro i hi
    rw [hsent, hhanded, hof, hwaiting, hq.waiting i hi]
    by_cases he : l = i
    · rw [if_pos he, if_pos he, List.append_assoc]
      rfl
    · rw [if_neg he, if_neg he, List.append_nil]
      rfl
  · intro i
    rw [hsent, hhanded, hof]
    exact (hq.inOrder i).trans (List.prefix_append _ _)
  · intro x hx
    rw [hsent, List.mem_append, List.mem_singleton] at hx
    obtain hx | rfl := hx
    · exact ⟨(hq.numbers x hx).1, Nat.lt_succ_of_lt (hq.numbers x hx).2⟩
    · exact ⟨hlt, Nat.lt_succ_self _⟩
  · rw [hsent, List.map_append, List.nodup_append]
    refine ⟨hq.distinct, List.nodup_singleton _, ?_⟩
    intro i hi j hj
    obtain ⟨x, hx, rfl⟩ := List.mem_map.1 hi
    have hj : j = n.dials := List.mem_singleton.1 hj
    have := (hq.numbers x hx).2
    omega
  · rw [hhanded]
    exact hq.once

theorem hand (hq : Queues n h) {c : Connection} {rest : List Connection}
    (hc : n.waitingAt l = c :: rest) :
    Queues (n.modifyListener l ({ · with waiting := rest }))
      (.accepted l (.connection c) :: h) := by
  have hlt : l < n.listeners.length := by
    by_contra hlt
    rw [waitingAt_of_le (Nat.le_of_not_lt hlt)] at hc
    cases hc
  have hl : n.holds l = true := by
    by_contra hl
    rw [hq.let_go l (Bool.not_eq_true _ ▸ hl)] at hc
    cases hc
  have hholds := holds_modifyListener hlt (f := ({ · with waiting := rest })) (g := fun b => b)
    fun _ => rfl
  have hwaiting := waitingAt_modifyListener hlt (f := ({ · with waiting := rest }))
    (g := fun _ => rest) fun _ => rfl
  simp only [ite_self] at hholds
  have hsent : sent (.accepted l (.connection c) :: h) = sent h := by
    rw [sent_cons]
    exact List.append_nil _
  have hhanded : handed (.accepted l (.connection c) :: h) = handed h ++ [(l, c)] :=
    handed_cons _ _
  have hof : ∀ i, ofListener i (handed h ++ [(l, c)]) =
      ofListener i (handed h) ++ if l = i then [c] else [] := fun i => by
    rw [ofListener_append, ofListener_single]
  have hown : ofListener l (sent h) = ofListener l (handed h) ++ c :: rest := by
    rw [hq.waiting l hl, hc]
  refine hq.requeue hl ⟨nofun, nofun⟩ (length_modifyListener _ _ _) hholds ?_ ?_ ?_ ?_ ?_ ?_
  · intro i hne
    rw [hwaiting, if_neg hne]
  · intro i hi
    rw [hsent, hhanded, hof, hwaiting]
    by_cases he : l = i
    · subst he
      rw [if_pos rfl, if_pos rfl, hown, List.append_assoc]
      rfl
    · rw [if_neg he, if_neg he, List.append_nil]
      exact hq.waiting i hi
  · intro i
    rw [hsent, hhanded, hof]
    by_cases he : l = i
    · subst he
      rw [if_pos rfl, hown, List.prefix_append_right_inj]
      exact ⟨rest, rfl⟩
    · rw [if_neg he, List.append_nil]
      exact hq.inOrder i
  · rw [hsent]
    exact hq.numbers
  · rw [hsent]
    exact hq.distinct
  · rw [hhanded, List.map_append, List.nodup_append]
    refine ⟨hq.once, List.nodup_singleton _, ?_⟩
    intro i hi j hj
    obtain ⟨⟨l', c'⟩, hx, rfl⟩ := List.mem_map.1 hi
    obtain rfl : j = c.id := List.mem_singleton.1 hj
    intro he
    -- both were dialed, so they are the same connection of the same listener
    have hmem : (l, c) ∈ sent h := mem_ofListener.1 (by rw [hown]; simp)
    have hmem' : (l', c') ∈ sent h :=
      mem_ofListener.1 ((hq.inOrder l').subset (mem_ofListener.2 hx))
    have hsame : (l', c') = (l, c) := List.inj_on_of_nodup_map hq.distinct hmem' hmem he
    cases hsame
    have hnodup : (ofListener l (sent h)).Nodup := hq.nodup_ofListener l
    rw [hown] at hnodup
    exact (List.disjoint_of_nodup_append hnodup) (mem_ofListener.2 hx) List.mem_cons_self

/-- Whatever is done, the events go on telling what the listeners are. -/
theorem perform (hq : Queues n h) (op : Op) :
    Queues (n.perform op) ((n.event? op).toList ++ h) := by
  cases op with
  | start options =>
    apply hq.idle (n.idle_start options)
    intro e he
    obtain ⟨id, -, rfl⟩ := Option.map_eq_some_iff.1 he
    rfl
  | listen id port =>
    show Queues (n.listen id port).1
      (((n.listen id port).2.toOption.map (.listened id port)).toList ++ h)
    unfold Network.listen
    split
    · exact hq
    · split
      · exact hq
      · have hidle := n.idle_modifySession id (·.assign port n.listeners.length)
        have hnext := (hq.congr hidle).listen id port
        rw [hidle.listeners] at hnext
        exact hnext
  | register id f =>
    apply hq.idle (n.idle_modifySession id ({ · with fallback := some f }))
    intro e he
    obtain ⟨s, -, rfl⟩ := Option.map_eq_some_iff.1 he
    rfl
  | close id =>
    apply hq.idle (n.idle_close id)
    intro e he
    obtain ⟨_, -, rfl⟩ := Option.map_eq_some_iff.1 he
    rfl
  | dial id src dst =>
    have hdials := n.dials_dial id src dst
    show Queues (n.dial id src dst).1 (.dialed id src dst (n.dial id src dst).2 :: h)
    generalize n.dial id src dst = r at hdials
    cases hdials with
    | shut _ => exact hq.quiet rfl
    | queued _ _ _ hl => exact hq.send hl id src dst
    | dropped _ _ _ _ | unheard _ _ _ _ | asked _ _ _ _ =>
      exact (hq.congr n.idle_count).quiet rfl
  | accept l =>
    have haccepts := n.accepts_accept l
    show Queues (n.accept l).1 (.accepted l (n.accept l).2 :: h)
    generalize n.accept l = r at haccepts
    cases haccepts with
    | next hc => exact hq.hand hc
    | pending _ _ | closed _ _ _ | absent _ => exact hq.quiet rfl
  | release l =>
    show Queues (n.modifyListener l fun x => { x with waiting := [], held := false })
      ((n.listeners[l]?.map fun _ => .released l).toList ++ h)
    by_cases hl : l < n.listeners.length
    · rw [List.getElem?_eq_getElem hl]
      exact hq.release hl
    · rw [List.getElem?_eq_none (Nat.le_of_not_lt hl)]
      exact hq.congr ⟨List.modify_eq_self (Nat.le_of_not_lt hl), Nat.le_refl _⟩
  | localClient => exact hq.congr n.idle_localClient
  | status id => exact hq.congr (n.idle_status id)
  | scriptHealth _ | failNextStarts _ | failListen _ => exact hq.congr ⟨rfl, Nat.le_refl _⟩

end Queues

/-! ## One listener -/

/-- The operation takes nothing from a listener. -/
def Op.spares (l : Nat) : Op → Bool
  | .accept i | .release i => i != l
  | _ => true

/-- The connection that a dial brings to a listener. -/
def Dialed.brings (l : Nat) : Dialed → List Connection
  | .queued c i => if i = l then [c] else []
  | _ => []

/-- The connection that an operation brings to a listener. -/
def brings (n : Network) (l : Nat) : Op → List Connection
  | .dial id src dst => (n.dial id src dst).2.brings l
  | _ => []

/-- Some connections were brought to a listener, which is cut off if it was, and nothing else
happened to it. -/
structure Onward (l : Nat) (new : List Connection) (n n' : Network) : Prop where
  length : n.listeners.length ≤ n'.listeners.length
  holds : n'.holds l = n.holds l
  waiting : n'.waitingAt l = n.waitingAt l ++ new
  fed : n'.isFed l = true → n.isFed l = true
  brought : new ≠ [] → n.isFed l = true

theorem isFed_of_listenerOn {i : Nat} (hs : n.session? id = some s)
    (hl : s.listenerOn port = some i) : n.isFed i = true := by
  obtain ⟨front, back, hports, -⟩ := List.lookup_eq_some_iff.1 hl
  refine isFed_iff.2 ⟨id, s, port, hs, ?_⟩
  rw [hports]
  simp

theorem fed_modifySession {f : Session → Session}
    (hf : ∀ s port, (port, l) ∈ (f s).ports → (port, l) ∈ s.ports)
    (hl : (n.modifySession id f).isFed l = true) : n.isFed l = true := by
  obtain ⟨j, s, port, hs, hm⟩ := isFed_iff.1 hl
  rw [session?_modifySession] at hs
  split at hs
  · obtain ⟨s', hs', rfl⟩ := Option.map_eq_some_iff.1 hs
    exact isFed_iff.2 ⟨j, s', port, hs', hf s' port hm⟩
  · exact isFed_iff.2 ⟨j, s, port, hs, hm⟩

theorem isFed_start (n : Network) (options : Options) (l : Nat) :
    (n.start options).1.isFed l = n.isFed l := by
  obtain ⟨_, -, hs⟩ | ⟨-, hs⟩ := n.start_cases options
  · rw [isFed, hs, isFed]
  · rw [isFed, hs, List.any_append, isFed]
    exact Bool.or_false _

theorem isFed_setFallback (n : Network) (id : Nat) (f : Fallback) (l : Nat) :
    (n.setFallback id f).isFed l = n.isFed l := by
  rw [Bool.eq_iff_iff]
  constructor
  · exact fed_modifySession fun _ _ hm => hm
  · intro hl
    obtain ⟨j, s, port, hs, hm⟩ := isFed_iff.1 hl
    unfold setFallback
    by_cases hj : id = j
    · refine isFed_iff.2 ⟨j, { s with fallback := some f }, port, ?_, hm⟩
      rw [session?_modifySession, if_pos hj, hs]
      rfl
    · refine isFed_iff.2 ⟨j, s, port, ?_, hm⟩
      rw [session?_modifySession, if_neg hj, hs]

namespace Onward

theorem idle (hi : n.Idle n') (hf : n'.isFed l = true → n.isFed l = true) :
    Onward l [] n n' where
  length := Nat.le_of_eq (congrArg List.length hi.listeners).symm
  holds := by rw [Network.holds, hi.listeners, Network.holds]
  waiting := by rw [waitingAt, hi.listeners, List.append_nil, waitingAt]
  fed := hf
  brought := fun h => absurd rfl h

theorem same (hi : n.Idle n') (hs : n'.sessions = n.sessions) : Onward l [] n n' := by
  apply idle hi
  unfold isFed
  rw [hs]
  exact id

theorem trans {n'' : Network} {new : List Connection} (h : Onward l [] n n')
    (h' : Onward l new n' n'') : Onward l new n n'' where
  length := Nat.le_trans h.length h'.length
  holds := h'.holds.trans h.holds
  waiting := by rw [h'.waiting, h.waiting, List.append_nil]
  fed hl := h.fed (h'.fed hl)
  brought hne := h.fed (h'.brought hne)

/-- A change of another listener. -/
theorem modifyListener {i : Nat} (hi : i ≠ l) (n : Network) (f : Listener → Listener) :
    Onward l [] n (n.modifyListener i f) where
  length := Nat.le_of_eq (n.length_modifyListener i f).symm
  holds := by simp [Network.holds, Network.modifyListener, hi]
  waiting := by simp [waitingAt, Network.modifyListener, hi]
  fed := id
  brought := fun h => absurd rfl h

theorem addListener (n : Network) (port : UInt16) (hl : l < n.listeners.length) :
    Onward l [] n (n.addListener port) where
  length := by
    rw [length_addListener]
    exact Nat.le_succ _
  holds := by rw [holds_addListener, if_neg (Nat.ne_of_lt hl)]
  waiting := by rw [waitingAt_addListener, List.append_nil]
  fed := id
  brought := fun h => absurd rfl h

theorem listen (n : Network) (id : Nat) (port : UInt16) (hl : l < n.listeners.length) :
    Onward l [] n (n.listen id port).1 := by
  unfold Network.listen
  split
  · exact same (.refl n) rfl
  · split
    · exact same (.refl n) rfl
    · have hidle := n.idle_modifySession id (·.assign port n.listeners.length)
      have hassign : Onward l [] n (n.modifySession id (·.assign port n.listeners.length)) := by
        apply idle hidle
        apply fed_modifySession
        intro s p hm
        obtain he | hm := List.mem_cons.1 hm
        · -- the number is that of the new listener
          cases he
          omega
        · exact (List.mem_filter.1 hm).1
      have hadd := addListener (n.modifySession id (·.assign port n.listeners.length)) port
        (Nat.lt_of_lt_of_le hl hassign.length)
      exact hassign.trans hadd

theorem close (n : Network) (id l : Nat) : Onward l [] n (n.close id).1 := by
  apply idle (n.idle_close id)
  unfold Network.close
  split
  · apply fed_modifySession
    intro s port hm
    cases hm
  · exact fun h => h

theorem dial (n : Network) (id : Nat) (src dst : Endpoint) (l : Nat) :
    Onward l ((n.dial id src dst).2.brings l) n (n.dial id src dst).1 := by
  have hdials := n.dials_dial id src dst
  generalize n.dial id src dst = r at hdials
  have hcount : Onward l [] n n.count := same n.idle_count rfl
  cases hdials with
  | shut _ => exact same (.refl n) rfl
  | @queued s i hs _ hl hheld =>
    dsimp only [Dialed.brings]
    by_cases hi : i = l
    · subst hi
      rw [if_pos rfl]
      have hlt := lt_of_holds hheld
      have hholds := holds_modifyListener (n := n.count) hlt
        (f := fun x => { x with waiting := x.waiting ++ [⟨n.dials, src⟩] }) (g := fun b => b)
        (fun _ => rfl) i
      have hwaiting := waitingAt_modifyListener (n := n.count) hlt
        (f := fun x => { x with waiting := x.waiting ++ [⟨n.dials, src⟩] })
        (g := fun cs => cs ++ [⟨n.dials, src⟩]) (fun _ => rfl) i
      rw [ite_self] at hholds
      rw [if_pos rfl] at hwaiting
      refine ⟨?_, hholds, hwaiting, fun h => h, fun _ => isFed_of_listenerOn hs hl⟩
      rw [length_modifyListener]
      exact Nat.le_refl _
    · rw [if_neg hi]
      exact hcount.trans (modifyListener hi n.count _)
  | dropped _ _ _ _ | unheard _ _ _ _ | asked _ _ _ _ => exact hcount

theorem accept {i : Nat} (hi : i ≠ l) (n : Network) : Onward l [] n (n.accept i).1 := by
  have haccepts := n.accepts_accept i
  generalize n.accept i = r at haccepts
  cases haccepts with
  | next _ => exact modifyListener hi n _
  | pending _ _ | closed _ _ _ | absent _ => exact same (.refl n) rfl

/-- Whatever is done, if it takes nothing from the listener. -/
theorem perform (hl : l < n.listeners.length) (op : Op) (hop : op.spares l = true) :
    Onward l (n.brings l op) n (n.perform op) := by
  cases op with
  | start options =>
    apply idle (n.idle_start options)
    exact fun hf => n.isFed_start options l ▸ hf
  | listen id port => exact listen n id port hl
  | register id f =>
    apply idle (n.idle_modifySession id _)
    exact fun hf => n.isFed_setFallback id f l ▸ hf
  | close id => exact close n id l
  | dial id src dst => exact dial n id src dst l
  | accept i => exact accept (by simpa [Op.spares] using hop) n
  | release i => exact modifyListener (by simpa [Op.spares] using hop) n _
  | localClient => exact same n.idle_localClient n.sessions_localClient
  | status id => exact same (n.idle_status id) (n.sessions_status id)
  | scriptHealth _ | failNextStarts _ | failListen _ => exact same ⟨rfl, Nat.le_refl _⟩ rfl

end Onward

end Tether.Sim.Network
