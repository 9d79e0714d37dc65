import Tether.Agent.Factory
import Tether.Agent.Health

/-!
Which sessions of the network in memory are open. Starting opens the session that comes next,
closing closes the one that is named, and nothing else opens or closes any: not listening, not a
fallback, not a health check. Each operation gets one lemma that says what it does to the sessions
on record, and one that says what it does to the open ones.
-/

namespace Tether.Sim.Network

open Tether.Agent Tether.Control Tether.Overlay

/-! ## Sessions by number -/

theorem isOpen_eq (n : Network) (id : Nat) :
    n.isOpen id = (n.session? id).any (!·.closed) := by
  unfold isOpen
  cases n.session? id <;> rfl

/-- What is open is read off the sessions alone. -/
theorem isOpen_congr {n n' : Network} (h : n'.sessions = n.sessions) (id : Nat) :
    n'.isOpen id = n.isOpen id := by
  unfold isOpen session?
  rw [h]

theorem session?_congr {n n' : Network} (h : n'.sessions = n.sessions) (id : Nat) :
    n'.session? id = n.session? id := by
  unfold session?
  rw [h]

/-- Sessions that are added leave those before them alone. -/
theorem session?_append {n n' : Network} {more : List Session}
    (h : n'.sessions = n.sessions ++ more) {id : Nat} {s : Session} (hs : n.session? id = some s) :
    n'.session? id = some s := by
  cases id with
  | zero => cases hs
  | succ i =>
    have hi : n.sessions[i]? = some s := hs
    show n'.sessions[i]? = some s
    rw [h, List.getElem?_append_left (List.getElem?_eq_some_iff.1 hi).1, hi]

theorem session?_modifySession (n : Network) (f : Session → Session) (id j : Nat) :
    (n.modifySession id f).session? j = if id = j then (n.session? j).map f else n.session? j := by
  cases id with
  | zero =>
    cases j with
    | zero => rfl
    | succ j => rfl
  | succ i =>
    cases j with
    | zero => rfl
    | succ j =>
      simp only [session?, modifySession, List.getElem?_modify, Nat.add_right_cancel_iff]
      split <;> simp

@[simp] theorem length_modifySession (n : Network) (f : Session → Session) (id : Nat) :
    (n.modifySession id f).sessions.length = n.sessions.length := by
  cases id with
  | zero => rfl
  | succ i => simp [modifySession]

/-- A change that leaves a session as open as it was opens and closes nothing. -/
theorem isOpen_modifySession {f : Session → Session} (hf : ∀ s, (f s).closed = s.closed)
    (n : Network) (id j : Nat) : (n.modifySession id f).isOpen j = n.isOpen j := by
  rw [isOpen_eq, isOpen_eq, session?_modifySession]
  by_cases hj : id = j
  · rw [if_pos hj]
    cases n.session? j with
    | none => rfl
    | some s => simp [hf]
  · rw [if_neg hj]

/-! ## One lemma for each operation -/

/-- A start uses up a failure that was scripted, or puts the next session on record. -/
theorem start_cases (n : Network) (options : Options) :
    (∃ cause, (n.start options).2 = .error cause ∧
      (n.start options).1.sessions = n.sessions) ∨
    ((n.start options).2 = .ok (n.sessions.length + 1) ∧
      (n.start options).1.sessions = n.sessions ++ [⟨options, false, none, []⟩]) := by
  unfold start
  split
  · exact Or.inl ⟨_, rfl, rfl⟩
  · exact Or.inr ⟨rfl, rfl⟩

theorem isOpen_append {n n' : Network} {s : Session} (h : n'.sessions = n.sessions ++ [s])
    (id : Nat) :
    n'.isOpen id = if id = n.sessions.length + 1 then !s.closed else n.isOpen id := by
  rw [isOpen_eq, isOpen_eq]
  cases id with
  | zero => rfl
  | succ i =>
    simp only [session?, h, Nat.add_right_cancel_iff, List.getElem?_append]
    by_cases hi : i < n.sessions.length
    · rw [if_pos hi, if_neg (by omega)]
    · rw [if_neg hi]
      by_cases he : i = n.sessions.length
      · simp [he]
      · have hs : [s].length ≤ i - n.sessions.length := by
          simp only [List.length_singleton]
          omega
        rw [if_neg he, List.getElem?_eq_none hs, List.getElem?_eq_none (Nat.le_of_not_lt hi)]

@[simp] theorem isOpen_setFallback (n : Network) (id : Nat) (f : Fallback) (j : Nat) :
    (n.setFallback id f).isOpen j = n.isOpen j :=
  isOpen_modifySession (f := ({ · with fallback := some f })) (fun _ => rfl) n id j

@[simp] theorem length_setFallback (n : Network) (id : Nat) (f : Fallback) :
    (n.setFallback id f).sessions.length = n.sessions.length := length_modifySession _ _ _

@[simp] theorem isOpen_listen (n : Network) (id : Nat) (port : UInt16) (j : Nat) :
    (n.listen id port).1.isOpen j = n.isOpen j := by
  unfold listen
  split
  · rfl
  · split
    · rfl
    · rw [← isOpen_modifySession (f := (·.assign port n.listeners.length)) (fun _ => rfl) n id j]
      exact isOpen_congr rfl j

@[simp] theorem length_listen (n : Network) (id : Nat) (port : UInt16) :
    (n.listen id port).1.sessions.length = n.sessions.length := by
  unfold listen
  split
  · rfl
  · split
    · rfl
    · exact length_modifySession _ _ _

@[simp] theorem isOpen_close (n : Network) (id j : Nat) :
    (n.close id).1.isOpen j = (n.isOpen j && j != id) := by
  unfold close
  split
  · simp only [isOpen, session?_modifySession]
    by_cases hj : id = j
    · subst hj
      cases n.session? id <;> simp [Session.close]
    · rw [if_neg hj, show (j != id) = true by simpa using Ne.symm hj, Bool.and_true]
  · rename_i h
    by_cases hj : j = id
    · subst hj
      simpa using h
    · simp [hj]

@[simp] theorem length_close (n : Network) (id : Nat) :
    (n.close id).1.sessions.length = n.sessions.length := by
  unfold close
  split
  · exact length_modifySession _ _ _
  · rfl

/-! ## What leaves the sessions alone -/

/-- The ports of the listeners in the order of their numbers, and whether their owners have them. -/
def heard (n : Network) : List (UInt16 × Bool) := n.listeners.map fun l => (l.port, l.held)

/-- Two networks have the same sessions and listeners and the same faults to come, whatever waits at
the listeners. -/
structure Calm (n n' : Network) : Prop where
  sessions : n'.sessions = n.sessions
  heard : n'.heard = n.heard
  startFailures : n'.startFailures = n.startFailures
  failListen : n'.failListen = n.failListen

namespace Calm

variable {n n' n'' : Network}

theorem refl (n : Network) : n.Calm n := ⟨rfl, rfl, rfl, rfl⟩

theorem trans (h : n.Calm n') (h' : n'.Calm n'') : n.Calm n'' :=
  ⟨h'.sessions.trans h.sessions, h'.heard.trans h.heard,
    h'.startFailures.trans h.startFailures, h'.failListen.trans h.failListen⟩

end Calm

theorem calm_localClient (n : Network) : n.Calm n.localClient.1 := by
  unfold localClient
  split <;> exact ⟨rfl, rfl, rfl, rfl⟩

theorem calm_status (n : Network) (id : Nat) : n.Calm (n.status id).1 := by
  unfold status
  dsimp only
  split
  · exact ⟨rfl, rfl, rfl, rfl⟩
  · cases n.health with
    | nil => exact ⟨rfl, rfl, rfl, rfl⟩
    | cons o rest => cases o <;> exact ⟨rfl, rfl, rfl, rfl⟩

/-- A health check leaves the sessions alone. -/
theorem calm_checkHealth (n : Network) (current : Option Nat) :
    n.Calm (checkHealth n current).1 := by
  unfold checkHealth
  cases current with
  | none => exact .refl n
  | some id =>
    dsimp only
    have hc := calm_localClient n
    generalize n.localClient = r at hc
    obtain ⟨net, _ | u⟩ := r
    · exact hc
    · have hs := calm_status net id
      dsimp only
      generalize net.status id = r' at hs
      obtain ⟨net', _ | status⟩ := r'
      · exact hc.trans hs
      · exact hc.trans hs

@[simp] theorem sessions_localClient (n : Network) : n.localClient.1.sessions = n.sessions :=
  (calm_localClient n).sessions

@[simp] theorem sessions_status (n : Network) (id : Nat) :
    (n.status id).1.sessions = n.sessions := (calm_status n id).sessions

@[simp] theorem sessions_checkHealth (n : Network) (current : Option Nat) :
    (checkHealth n current).1.sessions = n.sessions := (calm_checkHealth n current).sessions

/-! ## Building -/

/-- A build on a network that shows no fault leaves the session that comes next open. -/
theorem build_ready {n : Network} (hs : n.startFailures = 0) (hl : n.failListen = false)
    (settings : Settings) (key : Key) :
    ∃ n' listener, build n settings key = (n', .ready (n.sessions.length + 1) listener) ∧
      n'.isOpen (n.sessions.length + 1) = true ∧ n'.health = n.health ∧
      n'.startFailures = 0 ∧ n'.failListen = false := by
  obtain ⟨net, hstart, hsess, hhealth, hfail, hlisten⟩ : ∃ net : Network,
      n.start (settings.options key) = (net, .ok (n.sessions.length + 1)) ∧
      net.sessions = n.sessions ++ [⟨settings.options key, false, none, []⟩] ∧
      net.health = n.health ∧ net.startFailures = 0 ∧ net.failListen = false := by
    unfold start
    rw [hs]
    exact ⟨_, rfl, rfl, rfl, rfl, hl⟩
  let id := n.sessions.length + 1
  let equipped := net.setFallback id .relay
  have hopen : equipped.isOpen id = true := by
    rw [isOpen_setFallback, isOpen_append hsess, if_pos rfl]
    rfl
  have hheard : equipped.listen id settings.livenessPort =
      ({ equipped.modifySession id (·.assign settings.livenessPort equipped.listeners.length) with
        listeners := equipped.listeners ++ [⟨settings.livenessPort, [], true⟩] },
        .ok equipped.listeners.length) := by
    unfold listen
    rw [hopen, if_neg (by decide), if_neg]
    · rfl
    · show ¬net.failListen = true
      rw [hlisten]
      decide
  have hkept := isOpen_listen equipped id settings.livenessPort id
  rw [hheard, hopen] at hkept
  refine ⟨_, equipped.listeners.length, ?_, hkept, hhealth, hfail, hlisten⟩
  unfold build
  rw [hstart]
  dsimp only
  rw [hheard]

/-! ## Counting -/

/-- No session is open but, at most, the one that is named. -/
def OnlyOpen (n : Network) (o : Option Nat) : Prop := ∀ id, n.isOpen id = true → o = some id

/-- A close opens nothing. -/
theorem OnlyOpen.close {n : Network} {o : Option Nat} (h : n.OnlyOpen o) (id : Nat) :
    (n.close id).1.OnlyOpen o := by
  intro j hj
  rw [isOpen_close, Bool.and_eq_true] at hj
  exact h j hj.1

/-- To close the one session that may be open leaves none. -/
theorem OnlyOpen.close_self {n : Network} {id : Nat} (h : n.OnlyOpen (some id)) (o : Option Nat) :
    (n.close id).1.OnlyOpen o := by
  intro j hj
  rw [isOpen_close, Bool.and_eq_true, bne_iff_ne] at hj
  exact absurd (Option.some.inj (h j hj.1)).symm hj.2

theorem OnlyOpen.congr {n n' : Network} {o : Option Nat} (h : n.OnlyOpen o)
    (hs : n'.sessions = n.sessions) : n'.OnlyOpen o := by
  intro id hid
  exact h id (by rw [← isOpen_congr hs]; exact hid)

/-- Of a list in which no two places hold, at most one thing is left by the filter. -/
theorem length_filter_le_one {α : Type} (p : α → Bool) (xs : List α)
    (h : ∀ (i j : Nat) (a b : α), xs[i]? = some a → xs[j]? = some b →
      p a = true → p b = true → i = j) : (xs.filter p).length ≤ 1 := by
  induction xs with
  | nil => exact Nat.zero_le _
  | cons x xs ih =>
    by_cases hx : p x = true
    · -- the first place holds, so no later one does
      have hnone : xs.filter p = [] := by
        rw [List.filter_eq_nil_iff]
        intro a ha hpa
        obtain ⟨i, hi⟩ := List.mem_iff_getElem?.mp ha
        have := h 0 (i + 1) x a (by simp) (by simpa using hi) hx hpa
        omega
      rw [List.filter_cons_of_pos hx, hnone]
      exact Nat.le_refl _
    · rw [List.filter_cons_of_neg hx]
      refine ih ?_
      intro i j a b hi hj ha hb
      have := h (i + 1) (j + 1) a b (by simpa using hi) (by simpa using hj) ha hb
      omega

theorem OnlyOpen.openCount_le_one {n : Network} {o : Option Nat} (h : n.OnlyOpen o) :
    n.openCount ≤ 1 := by
  refine length_filter_le_one _ _ ?_
  intro i j a b hi hj ha hb
  have hio : n.isOpen (i + 1) = true := by simpa [isOpen, session?, hi] using ha
  have hjo : n.isOpen (j + 1) = true := by simpa [isOpen, session?, hj] using hb
  have he := (h _ hio).symm.trans (h _ hjo)
  simp only [Option.some.injEq] at he
  omega

end Tether.Sim.Network
