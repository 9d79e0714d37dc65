import Tether.Direct.Network

/-!
The direct backend in use. Sessions are started, given a fallback, listened on and closed in any
order, and listeners are dropped; `Use.perform` is one such operation. Nothing but a registration
gives a session its fallback, so that all fallbacks there are the one that was registered
(`Use.hasFallback_perform`), and a connection on a forward is brought before it with the destination
that the forward stands for (`Network.arrive_of_hasFallback`).
-/

namespace Tether.Direct

open Tether.Disk Tether.Net Tether.Overlay

/-- One thing that is done with the backend. -/
inductive Op
  | start (options : Options)
  /-- Gives a session the fallback. -/
  | register (session : Nat)
  | listen (session : Nat) (port : UInt16)
  /-- Drops a listener, by its place in the order of opening. -/
  | drop (listener : Nat)
  | close (session : Nat)
  deriving DecidableEq, Repr

/-- The backend, with the listeners that were opened so far. -/
structure Use (Service : Type) where
  network : Network Service
  listeners : List Listener

variable {Service : Type} {fallback : Endpoint → Endpoint → Routing Service}

namespace Use

/-- A backend of which no use was made yet. -/
def fresh (config : Config) (host : Host) (tree : Tree) : Use Service :=
  ⟨⟨config, host, tree, [], []⟩, []⟩

/-- Does one thing; `fallback` is what is registered. -/
def perform (fallback : Endpoint → Endpoint → Routing Service) (u : Use Service) :
    Op → Use Service
  | .start options => { u with network := (u.network.start options).1 }
  | .register id => { u with network := u.network.registerFallback id fallback }
  | .listen id port =>
    ⟨(u.network.listen id port).1,
      u.listeners ++ (u.network.listen id port).2.toOption.toList⟩
  | .drop k =>
    match u.listeners[k]? with
    | some l => { u with network := u.network.dropListener l }
    | none => u
  | .close id => { u with network := (u.network.close id).1 }

/-- The backend behind a list of operations. -/
def run (fallback : Endpoint → Endpoint → Routing Service) (u : Use Service) (ops : List Op) :
    Use Service := ops.foldl (perform fallback) u

end Use

namespace Network

/-! ## What an operation can do -/

/-- Nothing is started, or all forwards were bound and there is one more session. -/
theorem start_cases (n : Network Service) (o : Options) :
    (∃ tree e, n.start o = ({ n with tree := tree }, .error e)) ∨
      ∃ tree host forwards,
        bindForwards n.config.bindHost n.host n.config.forwards = .ok (host, forwards) ∧
        n.start o = ({ n with
            tree := tree
            host := host
            sessions := n.sessions ++ [⟨o.hostname, o.controlUrl, n.config.bindHost, false, none,
              forwards⟩]
            log := n.log ++ [startEntry n.config o] },
          .ok (n.sessions.length + 1)) := by
  unfold start
  split
  · exact .inl ⟨n.tree, _, rfl⟩
  · split
    · exact .inl ⟨_, _, rfl⟩
    · split
      · exact .inl ⟨_, _, rfl⟩
      · rename_i host forwards hb
        exact .inr ⟨_, host, forwards, hb, rfl⟩

/-- Nothing is opened, or a socket of an open session is bound. -/
theorem listen_cases (n : Network Service) (id : Nat) (port : UInt16) :
    (∃ e, n.listen id port = (n, .error e)) ∨
      ∃ s host socket bound, n.session? id = some s ∧ s.closed = false ∧
        n.host.bind s.bindHost port = .ok (host, socket) ∧
        n.listen id port = ({ n with host := host }, .ok ⟨id, socket, bound⟩) := by
  unfold listen
  split
  · exact .inl ⟨_, rfl⟩
  · rename_i s hs
    split
    · exact .inl ⟨_, rfl⟩
    · rename_i hc
      split
      · exact .inl ⟨_, rfl⟩
      · rename_i host socket hb
        exact .inr ⟨s, host, socket, _, hs, by simpa using hc, hb, rfl⟩

/-- Nothing is closed, or an open session lets go of its forwards. -/
theorem close_cases (n : Network Service) (id : Nat) :
    (∃ e, n.close id = (n, .error e)) ∨
      ∃ s, n.session? id = some s ∧ s.closed = false ∧
        n.close id = (modifySession
          { n with
            host := s.forwards.foldl (fun h f => h.release f.1) n.host
            log := n.log ++ [closeEntry s.hostname] } id
          (fun s => { s with closed := true, forwards := [] }), .ok ()) := by
  unfold close
  split
  · exact .inl ⟨_, rfl⟩
  · rename_i s hs
    split
    · exact .inl ⟨_, rfl⟩
    · rename_i hc
      exact .inr ⟨s, hs, by simpa using hc, rfl⟩

/-! ## The fallback -/

/-- Every fallback there is is this one. -/
def HasFallback (fallback : Endpoint → Endpoint → Routing Service) (n : Network Service) : Prop :=
  ∀ s ∈ n.sessions, ∀ f, s.fallback = some f → f = fallback

/-- Where a connection that reaches this host is taken to aim, if a fallback is asked about it. -/
def aim? (n : Network Service) (target : Endpoint) : Option Endpoint :=
  match n.socketAt? target with
  | none => none
  | some socket =>
    match n.forwardOf? socket with
    | none => none
    | some (_, s, f) => if s.fallback.isSome then some (s.destination f) else none

theorem forwardOf?_mem {n : Network Service} {socket id : Nat} {s : Session Service} {f : Forward}
    (h : n.forwardOf? socket = some (id, s, f)) :
    n.session? id = some s ∧ (socket, f) ∈ s.forwards := by
  unfold forwardOf? at h
  obtain ⟨⟨s', id'⟩, hm, hf⟩ := List.exists_of_findSome?_eq_some h
  obtain ⟨f', hl, he⟩ := Option.map_eq_some_iff.1 hf
  cases he
  rw [List.mem_zipIdx_iff_le_and_getElem?_sub] at hm
  obtain ⟨hle, hget⟩ := hm
  refine ⟨?_, ?_⟩
  · obtain ⟨i, rfl⟩ : ∃ i, id = i + 1 := ⟨id - 1, by omega⟩
    exact hget
  · obtain ⟨_, _, he, _⟩ := List.lookup_eq_some_iff.1 hl
    simp [he]

theorem mem_sessions_of_session? {n : Network Service} {id : Nat} {s : Session Service}
    (h : n.session? id = some s) : s ∈ n.sessions := by
  cases id with
  | zero => cases h
  | succ i => exact List.mem_of_getElem? h

/-- A connection on a forward is brought before the fallback with the destination of the forward. -/
theorem arrive_of_hasFallback {n : Network Service} (h : n.HasFallback fallback)
    (source target : Endpoint) :
    (∃ id dst, n.aim? target = some dst ∧
        n.arrive source target = .offered id (fallback source dst)) ∨
      n.aim? target = none ∧ ∀ id routing, n.arrive source target ≠ .offered id routing := by
  unfold aim? arrive
  cases n.socketAt? target with
  | none => exact .inr ⟨rfl, fun _ _ hr => nomatch hr⟩
  | some socket =>
    dsimp only
    cases hf : n.forwardOf? socket with
    | none => exact .inr ⟨rfl, fun _ _ hr => nomatch hr⟩
    | some x =>
      obtain ⟨id, s, f⟩ := x
      dsimp only
      cases hs : s.fallback with
      | none => exact .inr ⟨rfl, fun _ _ hr => nomatch hr⟩
      | some g =>
        have hg : g = fallback :=
          h s (mem_sessions_of_session? (forwardOf?_mem hf).1) g hs
        subst hg
        exact .inl ⟨id, s.destination f, rfl, rfl⟩

theorem hasFallback_modifySession {n : Network Service} (h : n.HasFallback fallback) (id : Nat)
    {g : Session Service → Session Service}
    (hg : ∀ s f, (g s).fallback = some f → s.fallback = some f ∨ f = fallback) :
    (n.modifySession id g).HasFallback fallback := by
  intro s hs f hf
  cases id with
  | zero => exact h s hs f hf
  | succ i =>
    obtain ⟨j, hj⟩ := List.mem_iff_getElem?.1 hs
    have hj' : (n.sessions.modify i g)[j]? = some s := hj
    rw [List.getElem?_modify] at hj'
    obtain ⟨s₀, hs₀, he⟩ := Option.map_eq_some_iff.1 hj'
    have hm := List.mem_of_getElem? hs₀
    split at he
    · subst he
      exact (hg s₀ f hf).elim (h s₀ hm f) id
    · subst he
      exact h _ hm f hf

end Network

namespace Use

theorem hasFallback_perform {u : Use Service} (h : u.network.HasFallback fallback) (op : Op) :
    (u.perform fallback op).network.HasFallback fallback := by
  cases op with
  | start options =>
    show (u.network.start options).1.HasFallback fallback
    obtain ⟨tree, e, he⟩ | ⟨tree, host, forwards, -, he⟩ := u.network.start_cases options
    · rw [he]
      exact h
    · rw [he]
      intro s hs f hf
      rcases List.mem_append.1 hs with hs | hs
      · exact h s hs f hf
      · rw [List.mem_singleton] at hs
        subst hs
        cases hf
  | register id =>
    refine Network.hasFallback_modifySession h id fun s f hf => ?_
    exact .inr (Option.some.inj hf).symm
  | listen id port =>
    show (u.network.listen id port).1.HasFallback fallback
    obtain ⟨e, he⟩ | ⟨s, host, socket, bound, -, -, -, he⟩ := u.network.listen_cases id port
    · rw [he]
      exact h
    · rw [he]
      exact h
  | drop k =>
    rw [perform]
    split
    · exact h
    · exact h
  | close id =>
    show (u.network.close id).1.HasFallback fallback
    obtain ⟨e, he⟩ | ⟨s, -, -, he⟩ := u.network.close_cases id
    · rw [he]
      exact h
    · rw [he]
      refine Network.hasFallback_modifySession ?_ id ?_
      · exact h
      · intro s f hf
        exact .inl hf

end Use

end Tether.Direct
