import Tether.Proofs.Finality

/-!
What is done with a network in memory leaves events behind: who was started and closed, which
listener listened where, what every dial and every accept came to (`recorded`). All that can be
known of a session is told by these events (`Known`): whether it is open, which fallback it has, and
which listener has each of its ports.
-/

namespace Tether.Sim.Network

open Tether.Net Tether.Overlay

/-! ## Events -/

/-- What came of an operation. -/
inductive Event
  | started (session : Nat)
  | closed (session : Nat)
  | registered (session : Nat) (fallback : Fallback)
  | listened (session : Nat) (port : UInt16) (listener : Nat)
  | released (listener : Nat)
  | dialed (session : Nat) (src dst : Endpoint) (result : Dialed)
  | accepted (listener : Nat) (result : Accepted)
  deriving DecidableEq

/-- The event that an operation leaves behind, if it leaves one. What fails or meets nothing leaves
none, but for a dial or an accept, which always come to something. -/
def event? (n : Network) : Op → Option Event
  | .start options => (n.start options).2.toOption.map .started
  | .close id => (n.close id).2.toOption.map fun _ => .closed id
  | .register id fallback => (n.session? id).map fun _ => .registered id fallback
  | .listen id port => (n.listen id port).2.toOption.map (.listened id port)
  | .release listener => n.listeners[listener]?.map fun _ => .released listener
  | .dial id src dst => some (.dialed id src dst (n.dial id src dst).2)
  | .accept listener => some (.accepted listener (n.accept listener).2)
  | _ => none

/-- An operation, and the event that it leaves behind before the earlier ones. -/
def record (s : Network × List Event) (op : Op) : Network × List Event :=
  (s.1.perform op, (s.1.event? op).toList ++ s.2)

/-- The network after some operations, and the events that they left behind, the last one first. -/
def recorded (ops : List Op) : Network × List Event := ops.foldl record ({}, [])

/-! ## What events tell -/

/-- A session was started and not closed. -/
def Opened (h : List Event) (id : Nat) : Prop := .started id ∈ h ∧ .closed id ∉ h

/-- The listener that listened on a port of a session. -/
def Event.listener? (id : Nat) (port : UInt16) : Event → Option Nat
  | .listened i p l => if i = id ∧ p = port then some l else none
  | _ => none

/-- The listener that listened last on a port of a session. -/
def latest? (h : List Event) (id : Nat) (port : UInt16) : Option Nat :=
  h.findSome? (·.listener? id port)

/-- The fallback that was registered with a session. -/
def Event.handler? (id : Nat) : Event → Option Fallback
  | .registered i f => if i = id then some f else none
  | _ => none

/-- The fallback that was registered last with a session. -/
def handler? (h : List Event) (id : Nat) : Option Fallback := h.findSome? (·.handler? id)

/-- The connection that was dialed to a listener, behind its listener. -/
def Event.sent? : Event → Option (Nat × Connection)
  | .dialed _ _ _ (.queued c l) => some (l, c)
  | _ => none

/-- The connections that were dialed to listeners, in the order of the dials. -/
def sent (h : List Event) : List (Nat × Connection) := (h.filterMap Event.sent?).reverse

/-- The connection that a listener returned to an accept, behind the listener. -/
def Event.handed? : Event → Option (Nat × Connection)
  | .accepted l (.connection c) => some (l, c)
  | _ => none

/-- The connections that accepts returned, in the order of the accepts. -/
def handed (h : List Event) : List (Nat × Connection) := (h.filterMap Event.handed?).reverse

/-- The connections of one listener. -/
def ofListener (l : Nat) (xs : List (Nat × Connection)) : List Connection :=
  xs.filterMap fun x => if x.1 = l then some x.2 else none

/-! ## One event more -/

variable {n n' : Network} {h : List Event} {id l : Nat} {port : UInt16} {s : Session}

theorem latest?_cons (e : Event) (h : List Event) (id : Nat) (port : UInt16) :
    latest? (e :: h) id port = (e.listener? id port).or (latest? h id port) := by
  unfold latest?
  rw [List.findSome?_cons]
  cases e.listener? id port <;> rfl

theorem handler?_cons (e : Event) (h : List Event) (id : Nat) :
    handler? (e :: h) id = (e.handler? id).or (handler? h id) := by
  unfold handler?
  rw [List.findSome?_cons]
  cases e.handler? id <;> rfl

theorem sent_cons (e : Event) (h : List Event) : sent (e :: h) = sent h ++ e.sent?.toList := by
  unfold sent
  rw [List.filterMap_cons]
  cases e.sent? <;> simp

theorem handed_cons (e : Event) (h : List Event) :
    handed (e :: h) = handed h ++ e.handed?.toList := by
  unfold handed
  rw [List.filterMap_cons]
  cases e.handed? <;> simp

theorem mem_of_latest? (hl : latest? h id port = some l) : .listened id port l ∈ h := by
  obtain ⟨e, he, hl⟩ := List.exists_of_findSome?_eq_some hl
  cases e with
  | listened i p l' =>
    simp only [Event.listener?, Option.ite_none_right_eq_some, Option.some.injEq] at hl
    obtain ⟨⟨rfl, rfl⟩, rfl⟩ := hl
    exact he
  | _ => cases hl

theorem latest?_isSome (hl : .listened id port l ∈ h) : (latest? h id port).isSome = true := by
  apply List.findSome?_isSome_iff.2
  refine ⟨_, hl, ?_⟩
  simp [Event.listener?]

/-! ## Connections of a listener -/

theorem ofListener_append (l : Nat) (xs ys : List (Nat × Connection)) :
    ofListener l (xs ++ ys) = ofListener l xs ++ ofListener l ys := List.filterMap_append

@[simp] theorem ofListener_nil (l : Nat) : ofListener l [] = [] := rfl

@[simp] theorem ofListener_single (l l' : Nat) (c : Connection) :
    ofListener l [(l', c)] = if l' = l then [c] else [] := by
  unfold ofListener
  rw [List.filterMap_cons]
  by_cases hl : l' = l
  · simp [hl]
  · simp [hl]

theorem mem_ofListener {xs : List (Nat × Connection)} {c : Connection} :
    c ∈ ofListener l xs ↔ (l, c) ∈ xs := by
  simp [ofListener]

/-! ## Ports -/

theorem lookup_filter_ne (ports : List (UInt16 × Nat)) {p : UInt16} (hp : p ≠ port) :
    (ports.filter (·.1 ≠ port)).lookup p = ports.lookup p := by
  induction ports with
  | nil => rfl
  | cons x ports ih =>
    obtain ⟨q, l⟩ := x
    by_cases hq : q = port
    · subst hq
      rw [List.filter_cons_of_neg (by simp), ih, List.lookup_cons, beq_false_of_ne hp]
    · rw [List.filter_cons_of_pos (by simpa using hq), List.lookup_cons, List.lookup_cons, ih]

theorem listenerOn_assign (s : Session) (port p : UInt16) (l : Nat) :
    (s.assign port l).listenerOn p = if p = port then some l else s.listenerOn p := by
  unfold Session.listenerOn Session.assign
  rw [List.lookup_cons]
  by_cases hp : p = port
  · simp [hp]
  · rw [beq_false_of_ne hp, if_neg hp, lookup_filter_ne s.ports hp]

theorem lookup_eq_some_iff {ports : List (UInt16 × Nat)} (hk : (ports.map Prod.fst).Nodup) :
    ports.lookup port = some l ↔ (port, l) ∈ ports := by
  induction ports with
  | nil => simp
  | cons x ports ih =>
    obtain ⟨q, l'⟩ := x
    rw [List.map_cons, List.nodup_cons] at hk
    rw [List.lookup_cons, List.mem_cons, Prod.mk.injEq]
    by_cases hq : port = q
    · subst hq
      have hnot : (port, l) ∉ ports := fun hm => hk.1 (List.mem_map.2 ⟨(port, l), hm, rfl⟩)
      simp [hnot, eq_comm]
    · rw [beq_false_of_ne hq]
      simp [hq, ih hk.2]

theorem isFed_iff : n.isFed l = true ↔
    ∃ id s port, n.session? id = some s ∧ (port, l) ∈ s.ports := by
  unfold isFed
  simp only [List.any_eq_true, beq_iff_eq]
  constructor
  · rintro ⟨s, hs, ⟨port, l'⟩, hp, rfl⟩
    obtain ⟨i, hi⟩ := List.mem_iff_getElem?.1 hs
    exact ⟨i + 1, s, port, hi, hp⟩
  · rintro ⟨id, s, port, hs, hp⟩
    cases id with
    | zero => cases hs
    | succ i => exact ⟨s, List.mem_iff_getElem?.2 ⟨i, hs⟩, _, hp, rfl⟩

/-! ## Sessions -/

theorem session?_concat {s : Session} (hs : n'.sessions = n.sessions ++ [s]) (id : Nat) :
    n'.session? id = if id = n.sessions.length + 1 then some s else n.session? id := by
  cases id with
  | zero => rfl
  | succ i =>
    simp only [session?, hs, Nat.add_right_cancel_iff, List.getElem?_append]
    by_cases hi : i < n.sessions.length
    · rw [if_pos hi, if_neg (by omega)]
    · rw [if_neg hi]
      by_cases he : i = n.sessions.length
      · simp [he]
      · rw [if_neg he, List.getElem?_eq_none (by simp; omega),
          List.getElem?_eq_none (Nat.le_of_not_lt hi)]

theorem isOpen_eq_true_iff :
    n.isOpen id = true ↔ ∃ s, n.session? id = some s ∧ s.closed = false := by
  rw [isOpen_eq]
  simp [Option.any_eq_true]

theorem modifySession_of_none (hs : n.session? id = none) (f : Session → Session) :
    n.modifySession id f = n := by
  cases id with
  | zero => rfl
  | succ i =>
    have hlen : n.sessions.length ≤ i := List.getElem?_eq_none_iff.1 hs
    show { n with sessions := n.sessions.modify i f } = n
    rw [List.modify_eq_self hlen]

theorem isSome_modifySession (n : Network) (f : Session → Session) (id j : Nat) :
    ((n.modifySession id f).session? j).isSome = (n.session? j).isSome := by
  rw [session?_modifySession]
  split
  · exact Option.isSome_map
  · rfl

/-- What a change leaves alone in a session it leaves alone in all. -/
theorem bind_modifySession {α : Type} {f : Session → Session} {g : Session → Option α}
    (hg : ∀ s, g (f s) = g s) (n : Network) (id j : Nat) :
    ((n.modifySession id f).session? j).bind g = (n.session? j).bind g := by
  rw [session?_modifySession]
  split
  · cases n.session? j with
    | none => rfl
    | some s => exact hg s
  · rfl

theorem any_modifySession {f : Session → Session} {p : Session → Bool}
    (hp : ∀ s, p (f s) = p s) (n : Network) (id j : Nat) :
    ((n.modifySession id f).session? j).any p = (n.session? j).any p := by
  rw [session?_modifySession]
  split
  · cases n.session? j with
    | none => rfl
    | some s => exact hp s
  · rfl

/-- The keys of the ports of all sessions stay apart if a change keeps them apart. -/
theorem keys_modifySession {f : Session → Session}
    (hk : ∀ id s, n.session? id = some s → (s.ports.map Prod.fst).Nodup)
    (hf : ∀ s, (s.ports.map Prod.fst).Nodup → ((f s).ports.map Prod.fst).Nodup) (id j : Nat) :
    ∀ s, (n.modifySession id f).session? j = some s → (s.ports.map Prod.fst).Nodup := by
  intro s hs
  rw [session?_modifySession] at hs
  split at hs
  · obtain ⟨s', hs', rfl⟩ := Option.map_eq_some_iff.1 hs
    exact hf s' (hk j s' hs')
  · exact hk j s hs

/-- The sessions are what the events tell of them. -/
structure Known (n : Network) (h : List Event) : Prop where
  started : ∀ id, (n.session? id).isSome = true ↔ .started id ∈ h
  closed : ∀ id, (n.session? id).any (·.closed) = true ↔ .closed id ∈ h
  fallback : ∀ id, (n.session? id).bind (·.fallback) = handler? h id
  ports : ∀ id port, (n.session? id).bind (·.listenerOn port) =
    if .closed id ∈ h then none else latest? h id port
  keys : ∀ id s, n.session? id = some s → (s.ports.map Prod.fst).Nodup

/-- Events that are not about sessions. -/
def Event.isAside : Event → Bool
  | .released _ | .dialed .. | .accepted .. => true
  | _ => false

namespace Known

theorem none : Known {} [] where
  started id := by cases id <;> simp [session?]
  closed id := by cases id <;> simp [session?]
  fallback id := by cases id <;> rfl
  ports id port := by cases id <;> rfl
  keys id s hs := by cases id <;> cases hs

theorem congr (hk : Known n h) (hs : n'.sessions = n.sessions) : Known n' h where
  started id := by rw [session?_congr hs, hk.started]
  closed id := by rw [session?_congr hs, hk.closed]
  fallback id := by rw [session?_congr hs, hk.fallback]
  ports id port := by rw [session?_congr hs, hk.ports]
  keys id s h := by
    rw [session?_congr hs] at h
    exact hk.keys id s h

theorem aside (hk : Known n h) {e : Event} (he : e.isAside = true) : Known n (e :: h) where
  started id := by
    rw [hk.started]
    cases e <;> simp [Event.isAside] at he ⊢
  closed id := by
    rw [hk.closed]
    cases e <;> simp [Event.isAside] at he ⊢
  fallback id := by
    rw [hk.fallback, handler?_cons]
    cases e <;> simp [Event.isAside, Event.handler?] at he ⊢
  ports id port := by
    rw [hk.ports, latest?_cons]
    cases e <;> simp [Event.isAside, Event.listener?] at he ⊢
  keys := hk.keys

theorem start (hk : Known n h) {o : Options}
    (hs : n'.sessions = n.sessions ++ [⟨o, false, .none, []⟩]) :
    Known n' (.started (n.sessions.length + 1) :: h) := by
  have hnew := session?_concat hs
  have hold : n.session? (n.sessions.length + 1) = .none :=
    List.getElem?_eq_none (Nat.le_refl _)
  refine ⟨?_, ?_, ?_, ?_, ?_⟩
  · intro id
    rw [hnew, List.mem_cons, ← hk.started]
    by_cases hid : id = n.sessions.length + 1
    · simp [hid]
    · simp [hid]
  · intro id
    rw [hnew, List.mem_cons, ← hk.closed]
    by_cases hid : id = n.sessions.length + 1
    · simp [hid, hold]
    · simp [hid]
  · intro id
    rw [hnew, handler?_cons, ← hk.fallback]
    by_cases hid : id = n.sessions.length + 1
    · simp [hid, hold, Event.handler?]
    · simp [hid, Event.handler?]
  · intro id port
    have hp := hk.ports id port
    rw [hnew, latest?_cons]
    by_cases hid : id = n.sessions.length + 1
    · rw [hid, hold] at hp
      rw [if_pos hid, hid]
      simpa [Event.listener?, Session.listenerOn] using hp
    · rw [if_neg hid]
      simpa [Event.listener?] using hp
  · intro id s
    rw [hnew]
    by_cases hid : id = n.sessions.length + 1
    · rw [if_pos hid]
      intro he
      cases he
      exact List.nodup_nil
    · rw [if_neg hid]
      exact hk.keys id s

theorem close (hk : Known n h) (hopen : n.isOpen id = true) :
    Known (n.modifySession id Session.close) (.closed id :: h) := by
  obtain ⟨s, hs, -⟩ := isOpen_eq_true_iff.1 hopen
  refine ⟨?_, ?_, ?_, ?_, ?_⟩
  · intro j
    rw [isSome_modifySession, hk.started]
    simp
  · intro j
    rw [session?_modifySession, List.mem_cons, ← hk.closed]
    by_cases hj : id = j
    · subst hj
      simp [hs, Session.close]
    · simp [hj, Ne.symm hj]
  · intro j
    rw [bind_modifySession, hk.fallback, handler?_cons]
    · rfl
    · exact fun _ => rfl
  · intro j port
    rw [session?_modifySession, latest?_cons]
    by_cases hj : id = j
    · subst hj
      simp [hs, Session.close, Session.listenerOn]
    · have hp := hk.ports j port
      rw [if_neg hj]
      simpa [Event.listener?, Ne.symm hj] using hp
  · intro j
    apply keys_modifySession hk.keys
    exact fun _ _ => List.nodup_nil

theorem register (hk : Known n h) (f : Fallback) (hs : n.session? id = some s) :
    Known (n.setFallback id f) (.registered id f :: h) := by
  unfold setFallback
  refine ⟨?_, ?_, ?_, ?_, ?_⟩
  · intro j
    rw [isSome_modifySession, hk.started]
    simp
  · intro j
    rw [any_modifySession, hk.closed]
    · simp
    · exact fun _ => rfl
  · intro j
    rw [session?_modifySession, handler?_cons, ← hk.fallback]
    by_cases hj : id = j
    · subst hj
      simp [hs, Event.handler?]
    · simp [hj, Event.handler?]
  · intro j port
    rw [bind_modifySession, hk.ports, latest?_cons]
    · simp [Event.listener?]
    · exact fun _ => rfl
  · intro j
    apply keys_modifySession hk.keys
    exact fun _ hkeys => hkeys

theorem listen (hk : Known n h) (hopen : n.isOpen id = true) (port : UInt16) (l : Nat) :
    Known (n.modifySession id (·.assign port l)) (.listened id port l :: h) := by
  obtain ⟨s, hs, hc⟩ := isOpen_eq_true_iff.1 hopen
  refine ⟨?_, ?_, ?_, ?_, ?_⟩
  · intro j
    rw [isSome_modifySession, hk.started]
    simp
  · intro j
    rw [any_modifySession, hk.closed]
    · simp
    · exact fun _ => rfl
  · intro j
    rw [bind_modifySession, hk.fallback, handler?_cons]
    · rfl
    · exact fun _ => rfl
  · intro j p
    have hp := hk.ports j p
    rw [session?_modifySession, latest?_cons]
    by_cases hj : id = j
    · subst hj
      have hnot : .closed id ∉ h := by
        rw [← hk.closed, hs]
        simp [hc]
      rw [hs, if_neg hnot] at hp
      rw [if_pos rfl, hs, if_neg (by simpa using hnot)]
      show (s.assign port l).listenerOn p = _
      rw [listenerOn_assign]
      by_cases he : p = port
      · simp [Event.listener?, he]
      · rw [if_neg he]
        simpa [Event.listener?, Ne.symm he] using hp
    · rw [if_neg hj]
      simpa [Event.listener?, hj] using hp
  · intro j
    apply keys_modifySession hk.keys
    intro s hkeys
    show (port :: (s.ports.filter (·.1 ≠ port)).map Prod.fst).Nodup
    rw [List.nodup_cons]
    refine ⟨?_, hkeys.sublist (List.filter_sublist.map _)⟩
    intro hm
    obtain ⟨x, hx, rfl⟩ := List.mem_map.1 hm
    simpa using (List.mem_filter.1 hx).2

/-- Whatever is done, the events go on telling what the sessions are. -/
theorem perform (hk : Known n h) (op : Op) :
    Known (n.perform op) ((n.event? op).toList ++ h) := by
  cases op with
  | start options =>
    show Known (n.start options).1 (((n.start options).2.toOption.map .started).toList ++ h)
    obtain ⟨cause, hr, hs⟩ | ⟨hr, hs⟩ := n.start_cases options
    · rw [hr]
      exact hk.congr hs
    · rw [hr]
      exact hk.start hs
  | listen id port =>
    show Known (n.listen id port).1
      (((n.listen id port).2.toOption.map (.listened id port)).toList ++ h)
    unfold Network.listen
    split
    · exact hk
    · rename_i hopen
      split
      · exact hk
      · exact (hk.listen (by simpa using hopen) port n.listeners.length).congr rfl
  | register id f =>
    show Known (n.setFallback id f) (((n.session? id).map fun _ => .registered id f).toList ++ h)
    cases hs : n.session? id with
    | none =>
      rw [show n.setFallback id f = n from modifySession_of_none hs _]
      exact hk
    | some s => exact hk.register f hs
  | close id =>
    show Known (n.close id).1 (((n.close id).2.toOption.map fun _ => .closed id).toList ++ h)
    unfold Network.close
    split
    · rename_i hopen
      exact hk.close hopen
    · exact hk
  | dial id src dst => exact (hk.congr (n.sessions_dial id src dst)).aside rfl
  | accept l => exact (hk.congr (n.calm_accept l).sessions).aside rfl
  | release l =>
    show Known (n.release l).1 ((n.listeners[l]?.map fun _ => .released l).toList ++ h)
    cases n.listeners[l]? with
    | none => exact hk.congr rfl
    | some x =>
      have hsame : Known (n.release l).1 h := hk.congr rfl
      exact hsame.aside rfl
  | localClient => exact hk.congr n.sessions_localClient
  | status id => exact hk.congr (n.sessions_status id)
  | scriptHealth _ | failNextStarts _ | failListen _ => exact hk.congr rfl

end Known

end Tether.Sim.Network
