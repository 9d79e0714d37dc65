import Tether.Proofs.Direct.Use
import Tether.Proofs.Sim.Calm
import Tether.Proofs.Supervisor.Schedule
import Tether.Proofs.Supervisor.Stopping

/-!
A close is final, on both backends. Of all the closes of a session the first succeeds and every
other one finds it closed and changes nothing, whatever is done with the session and with others in
between (`Closable.answers_run`). A session that is closed takes no listener and no connection, and
nothing opens it again (`Network.Over` of either backend). A check finds it unfit whatever the
script of outcomes holds, so a supervisor whose session was closed by anyone begins to replace it at
the next tick: `close_final`.
-/

namespace Tether

open Tether.Overlay

/-! ## Something that can be closed -/

/-- Something that can be closed, among operations of all kinds: the first close succeeds, and each
one behind it finds it closed. -/
structure Closable (State Op : Type) where
  perform : State → Op → State
  close : State → State × Except Error Unit
  /-- The operation is a close. -/
  closes : Op → Bool
  /-- It is closed, or it is not; it may not be there at all. -/
  closed? : State → Option Bool
  perform_close {s : State} {op : Op} : closes op = true → perform s op = (close s).1
  closed?_perform {s : State} {op : Op} {c : Bool} :
    closed? s = some c → closed? (perform s op) = some (c || closes op)
  close_open {s : State} : closed? s = some false → (close s).2 = .ok ()
  close_closed {s : State} : closed? s = some true → close s = (s, .error .closed)

namespace Closable

variable {State Op : Type} (k : Closable State Op) {s : State}

def run (s : State) (ops : List Op) : State := ops.foldl k.perform s

/-- What the closes among some operations came to, in their order. -/
def answers (s : State) : List Op → List (Except Error Unit)
  | [] => []
  | op :: ops =>
    (if k.closes op then [(k.close s).2] else []) ++ answers (k.perform s op) ops

/-- One success, and failures behind it, so many answers in all. -/
def firstOnly : Nat → List (Except Error Unit)
  | 0 => []
  | n + 1 => .ok () :: List.replicate n (.error .closed)

theorem closed?_run {c : Bool} (h : k.closed? s = some c) (ops : List Op) :
    k.closed? (k.run s ops) = some (c || ops.any k.closes) := by
  induction ops generalizing s c with
  | nil => simpa [run] using h
  | cons op ops ih =>
    have hnext : k.closed? (k.perform s op) = some (c || k.closes op) := k.closed?_perform h
    have hlast := ih hnext
    rwa [Bool.or_assoc] at hlast

theorem answers_closed (h : k.closed? s = some true) (ops : List Op) :
    k.answers s ops = List.replicate (ops.countP k.closes) (.error .closed) := by
  induction ops generalizing s with
  | nil => rfl
  | cons op ops ih =>
    have hnext : k.closed? (k.perform s op) = some true := k.closed?_perform h
    rw [answers, ih hnext]
    by_cases hop : k.closes op = true
    · rw [if_pos hop, k.close_closed h, List.countP_cons_of_pos hop, List.replicate_succ]
      rfl
    · rw [if_neg hop, List.countP_cons_of_neg hop]
      rfl

theorem answers_run (h : k.closed? s = some false) (ops : List Op) :
    k.answers s ops = firstOnly (ops.countP k.closes) := by
  induction ops generalizing s with
  | nil => rfl
  | cons op ops ih =>
    have hnext : k.closed? (k.perform s op) = some (false || k.closes op) := k.closed?_perform h
    rw [answers]
    by_cases hop : k.closes op = true
    · rw [hop] at hnext
      rw [if_pos hop, k.close_open h, k.answers_closed hnext, List.countP_cons_of_pos hop]
      rfl
    · rw [Bool.not_eq_true] at hop
      rw [hop] at hnext
      rw [hop, if_neg Bool.false_ne_true, ih hnext,
        List.countP_cons_of_neg (by rw [hop]; exact Bool.false_ne_true)]
      rfl

end Closable

end Tether

namespace Tether.Agent

open Tether.Overlay Tether.Sim

/-! ## Checks -/

/-- What a check finds of a session, by how the request for its client and that for the status
ended. -/
def findings (client : Except Overlay.Error Unit) (status : Except Overlay.Error Status) :
    Except HealthError Status :=
  match client, status with
  | .error cause, _ => .error (.localClient cause)
  | .ok (), .error cause => .error (.status cause)
  | .ok (), .ok status =>
    if status.isMember then .ok status else .error (.notMember status.backendState)

theorem checkHealth_eq_findings (net : Network) (id : Nat) :
    (checkHealth net (some id)).2 = findings net.localClient.2 (net.localClient.1.status id).2 := by
  unfold checkHealth findings
  dsimp only
  generalize net.localClient = asked
  obtain ⟨net, cause | u⟩ := asked
  · rfl
  · dsimp only
    generalize net.status id = answered
    obtain ⟨net, cause | status⟩ := answered
    · rfl
    · rfl

end Tether.Agent

namespace Tether.Sim.Network

open Tether.Net Tether.Overlay

/-! ## Sessions in memory -/

/-- One thing that is done with the network, with one of its sessions, or with a listener or client
that a session gave. -/
inductive Op
  | start (options : Options)
  | listen (session : Nat) (port : UInt16)
  | register (session : Nat) (fallback : Fallback)
  | close (session : Nat)
  | dial (session : Nat) (src dst : Endpoint)
  | accept (listener : Nat)
  | release (listener : Nat)
  | localClient
  | status (session : Nat)
  | scriptHealth (outcomes : List HealthOutcome)
  | failNextStarts (count : Nat)
  | failListen (fail : Bool)
  deriving DecidableEq, Repr

def perform (n : Network) : Op → Network
  | .start options => (n.start options).1
  | .listen id port => (n.listen id port).1
  | .register id fallback => n.setFallback id fallback
  | .close id => (n.close id).1
  | .dial id src dst => (n.dial id src dst).1
  | .accept listener => (n.accept listener).1
  | .release listener => (n.release listener).1
  | .localClient => n.localClient.1
  | .status id => (n.status id).1
  | .scriptHealth outcomes => n.scriptHealth outcomes
  | .failNextStarts count => n.failNextStarts count
  | .failListen fail => n.setFailListen fail

/-- The operation closes the session of a number. -/
def Op.closes (id : Nat) : Op → Bool
  | .close session => session == id
  | _ => false

theorem sessions_dial (n : Network) (id : Nat) (src dst : Endpoint) :
    (n.dial id src dst).1.sessions = n.sessions := by
  unfold dial
  split
  · rfl
  · split
    · rfl
    · dsimp only
      split
      · split
        · rfl
        · rfl
      · split
        · rfl
        · rfl

/-- What one operation does to a session: a close of it closes it, and while it is closed no port is
given to it. -/
structure Evolves (closes : Bool) (s s' : Session) : Prop where
  closed : s'.closed = (s.closed || closes)
  ports : (s.closed = true → s.ports = []) → s'.closed = true → s'.ports = []

theorem Evolves.refl (s : Session) : Evolves false s s := ⟨(Bool.or_false _).symm, id⟩

variable {n : Network} {id : Nat} {s : Session}

theorem evolves_modifySession (h : n.session? id = some s) {f : Session → Session} (j : Nat)
    {closes : Bool} (hj : j = id → Evolves closes s (f s)) (hne : j ≠ id → closes = false) :
    ∃ s', (n.modifySession j f).session? id = some s' ∧ Evolves closes s s' := by
  rw [session?_modifySession]
  by_cases he : j = id
  · rw [if_pos he, h]
    exact ⟨f s, rfl, hj he⟩
  · rw [if_neg he, h, hne he]
    exact ⟨s, rfl, .refl s⟩

theorem evolves_close (h : n.session? id = some s) (j : Nat) :
    ∃ s', (n.close j).1.session? id = some s' ∧ Evolves (j == id) s s' := by
  unfold close
  split
  · refine evolves_modifySession h j (fun he => ?_) fun hne => beq_false_of_ne hne
    rw [beq_iff_eq.2 he]
    exact ⟨(Bool.or_true _).symm, fun _ _ => rfl⟩
  · rename_i hopen
    refine ⟨s, h, ?_, fun hs => hs⟩
    by_cases he : j = id
    · subst he
      rw [isOpen_eq, h] at hopen
      have hclosed : s.closed = true := by simpa using hopen
      rw [hclosed]
      rfl
    · rw [beq_false_of_ne he, Bool.or_false]

/-- Whatever is done, a session evolves. -/
theorem evolves_perform (h : n.session? id = some s) (op : Op) :
    ∃ s', (n.perform op).session? id = some s' ∧ Evolves (op.closes id) s s' := by
  have hsame : ∀ {n' : Network}, n'.sessions = n.sessions →
      ∃ s', n'.session? id = some s' ∧ Evolves false s s' :=
    fun hn => ⟨s, (session?_congr hn id).trans h, .refl s⟩
  cases op with
  | start options =>
    obtain ⟨_, -, hs⟩ | ⟨-, hs⟩ := n.start_cases options
    · exact hsame hs
    · exact ⟨s, session?_append hs h, .refl s⟩
  | listen j port =>
    show ∃ s', (n.listen j port).1.session? id = some s' ∧ _
    unfold listen
    split
    · exact hsame rfl
    · rename_i hopen
      split
      · exact hsame rfl
      · refine evolves_modifySession (f := (·.assign port n.listeners.length)) h j (fun he => ?_)
          fun _ => rfl
        -- the session is open, so nothing is said about its ports
        refine ⟨(Bool.or_false _).symm, fun _ (hclosed : s.closed = true) => ?_⟩
        rw [he, isOpen_eq, h] at hopen
        simp [hclosed] at hopen
  | register j fallback =>
    exact evolves_modifySession (f := ({ · with fallback := some fallback })) h j
      (fun _ => ⟨(Bool.or_false _).symm, fun hs => hs⟩) fun _ => rfl
  | close j => exact evolves_close h j
  | dial j src dst => exact hsame (n.sessions_dial j src dst)
  | accept listener => exact hsame (n.calm_accept listener).sessions
  | localClient => exact hsame n.sessions_localClient
  | status j => exact hsame (n.sessions_status j)
  | release _ | scriptHealth _ | failNextStarts _ | failListen _ => exact hsame rfl

/-- A session in memory is something that can be closed. -/
def closable (id : Nat) : Closable Network Op where
  perform := perform
  close n := n.close id
  closes := Op.closes id
  closed? n := (n.session? id).map Session.closed
  perform_close {n op} hop := by
    cases op with
    | close j => rw [perform, beq_iff_eq.1 hop]
    | _ => cases hop
  closed?_perform {n op c} h := by
    obtain ⟨s, hs, rfl⟩ := Option.map_eq_some_iff.1 h
    obtain ⟨s', hs', he⟩ := evolves_perform hs op
    rw [hs', Option.map_some, he.closed]
  close_open {n} h := by
    obtain ⟨s, hs, hc⟩ := Option.map_eq_some_iff.1 h
    unfold close
    rw [isOpen_eq, hs]
    simp [hc]
  close_closed {n} h := by
    obtain ⟨s, hs, hc⟩ := Option.map_eq_some_iff.1 h
    unfold close
    rw [isOpen_eq, hs]
    simp [hc]

/-- It is all over with a session. -/
structure Over (n : Network) (id : Nat) : Prop where
  isOpen : n.isOpen id = false
  close : n.close id = (n, .error .closed)
  listen : ∀ port, n.listen id port = (n, .error .closed)
  dial : ∀ src dst, n.dial id src dst = (n, .refused)
  ports : ∀ port, (n.session? id).any (·.isListening port) = false
  status : ∀ outcomes, ({ n with health := outcomes }.status id).2 = .ok (.detached "Stopped")
  check : ∀ outcomes, (Agent.checkHealth { n with health := outcomes } (some id)).2 =
    if outcomes.head? = some .localClientError then
      .error (.localClient (.localClient "mock local client failure"))
    else .error (.notMember "Stopped")

theorem exists_closed_run (h : n.session? id = some s) (hp : s.closed = true → s.ports = [])
    (ops : List Op) : ∃ s', ((closable id).run n ops).session? id = some s' ∧
      s'.closed = (s.closed || ops.any (Op.closes id)) ∧ (s'.closed = true → s'.ports = []) := by
  induction ops generalizing n s with
  | nil => exact ⟨s, h, (Bool.or_false _).symm, hp⟩
  | cons op ops ih =>
    obtain ⟨s₁, hs₁, hclosed, hports⟩ := evolves_perform h op
    obtain ⟨s₂, hs₂, hclosed₂, hports₂⟩ := ih hs₁ (hports hp)
    refine ⟨s₂, hs₂, ?_, hports₂⟩
    rw [hclosed₂, hclosed, Bool.or_assoc]
    rfl

theorem status_closed (h : n.isOpen id = false) : (n.status id).2 = .ok (.detached "Stopped") := by
  have hopen : { n with healthChecks := n.healthChecks + 1 }.isOpen id = false := h
  unfold status
  dsimp only
  rw [hopen]
  rfl

theorem over_of_closed (h : n.session? id = some s) (hc : s.closed = true) (hp : s.ports = []) :
    n.Over id := by
  have hopen : ∀ {n' : Network}, n'.sessions = n.sessions → n'.isOpen id = false := by
    intro n' hn
    rw [isOpen_congr hn, isOpen_eq, h]
    simp [hc]
  have hclosed : n.isOpen id = false := hopen rfl
  refine ⟨hclosed, ?_, fun port => ?_, fun src dst => ?_, fun port => ?_, fun outcomes => ?_,
    fun outcomes => ?_⟩
  · unfold close
    rw [hclosed]
    rfl
  · unfold listen
    rw [hclosed]
    rfl
  · unfold dial
    rw [h]
    simp [hc]
  · rw [h]
    simp [Session.isListening, Session.listenerOn, hp]
  · exact status_closed (hopen rfl)
  · have hasked := hopen (sessions_localClient { n with health := outcomes })
    rw [Agent.checkHealth_eq_findings, status_closed hasked]
    cases outcomes with
    | nil => rfl
    | cons o rest => cases o <;> rfl

end Tether.Sim.Network

namespace Tether.Direct

open Tether.Disk Tether.Net Tether.Overlay

variable {Service : Type} {fallback : Endpoint → Endpoint → Routing Service}

namespace Network

/-! ## Sessions on sockets of the host -/

variable {n : Network Service} {id : Nat} {s : Session Service}

theorem session?_modifySession (n : Network Service) (f : Session Service → Session Service)
    (j id : Nat) :
    (n.modifySession j f).session? id =
      if j = id then (n.session? id).map f else n.session? id := by
  cases j with
  | zero => cases id <;> rfl
  | succ j =>
    cases id with
    | zero => rfl
    | succ i =>
      simp only [session?, modifySession, List.getElem?_modify, Nat.add_right_cancel_iff]
      split <;> simp

/-- It is all over with a session. -/
structure Over (n : Network Service) (id : Nat) : Prop where
  close : n.close id = (n, .error .closed)
  listen : ∀ port, n.listen id port = (n, .error .closed)
  client : ∀ s, n.session? id = some s →
    s.localClient = .error (.localClient "session closed") ∧ s.status = .detached "Stopped"
  /-- Neither a client asked for now nor one that was had before passes a check. -/
  check : ∀ s, n.session? id = some s →
    Agent.findings s.localClient (.ok s.status) =
        .error (.localClient (.localClient "session closed")) ∧
      Agent.findings (.ok ()) (.ok s.status) = .error (.notMember "Stopped")

theorem over_of_closed (h : n.session? id = some s) (hc : s.closed = true) : n.Over id := by
  have hclient : s.localClient = .error (.localClient "session closed") := by
    unfold Session.localClient
    rw [if_pos hc]
  have hstatus : s.status = .detached "Stopped" := by
    unfold Session.status
    rw [if_pos hc]
  have hown : ∀ s', n.session? id = some s' → s' = s :=
    fun s' hs' => Option.some.inj (hs'.symm.trans h)
  refine ⟨?_, fun port => ?_, fun s' hs' => ?_, fun s' hs' => ?_⟩
  · unfold close
    rw [h]
    simp [hc]
  · unfold listen
    rw [h]
    simp [hc]
  · rw [hown s' hs']
    exact ⟨hclient, hstatus⟩
  · rw [hown s' hs', hclient, hstatus]
    exact ⟨rfl, rfl⟩

end Network

/-- The operation closes the session of a number. -/
def Op.closes (id : Nat) : Op → Bool
  | .close session => session == id
  | _ => false

/-- Whatever is done, a session is closed by a close of it and by nothing else. -/
theorem Use.closed_perform {u : Use Service} {id : Nat} {s : Session Service}
    (h : u.network.session? id = some s) (op : Op) :
    ∃ s', (u.perform fallback op).network.session? id = some s' ∧
      s'.closed = (s.closed || op.closes id) := by
  have hsame : s.closed = (s.closed || false) := (Bool.or_false _).symm
  cases op with
  | start options =>
    show ∃ s', (u.network.start options).1.session? id = some s' ∧ _
    obtain ⟨tree, e, he⟩ | ⟨tree, host, forwards, -, he⟩ := u.network.start_cases options
    · rw [he]
      exact ⟨s, h, hsame⟩
    · rw [he]
      refine ⟨s, ?_, hsame⟩
      cases id with
      | zero => cases h
      | succ i =>
        have hi : u.network.sessions[i]? = some s := h
        show (u.network.sessions ++ _)[i]? = some s
        rw [List.getElem?_append_left (List.getElem?_eq_some_iff.1 hi).1, hi]
  | register j =>
    show ∃ s', (u.network.modifySession j _).session? id = some s' ∧ _
    rw [Network.session?_modifySession, h]
    split
    · exact ⟨_, rfl, hsame⟩
    · exact ⟨s, rfl, hsame⟩
  | listen j port =>
    show ∃ s', (u.network.listen j port).1.session? id = some s' ∧ _
    obtain ⟨e, he⟩ | ⟨_, host, socket, bound, -, -, -, he⟩ := u.network.listen_cases j port
    · rw [he]
      exact ⟨s, h, hsame⟩
    · rw [he]
      exact ⟨s, h, hsame⟩
  | drop k =>
    rw [perform]
    split
    · exact ⟨s, h, hsame⟩
    · exact ⟨s, h, hsame⟩
  | close j =>
    show ∃ s', (u.network.close j).1.session? id = some s' ∧ s'.closed = (s.closed || j == id)
    unfold Network.close
    by_cases hj : j = id
    · subst hj
      rw [h]
      dsimp only
      split
      · rename_i hc
        exact ⟨s, h, by rw [hc]; rfl⟩
      · refine ⟨{ s with closed := true, forwards := [] }, ?_, ?_⟩
        · rw [Network.session?_modifySession, if_pos rfl]
          show (u.network.session? j).map _ = _
          rw [h]
          rfl
        · rw [beq_self_eq_true, Bool.or_true]
    · rw [beq_false_of_ne hj]
      split
      · exact ⟨s, h, hsame⟩
      · split
        · exact ⟨s, h, hsame⟩
        · rw [Network.session?_modifySession, if_neg hj]
          exact ⟨s, h, hsame⟩

/-- A session of the direct backend is something that can be closed. -/
def Use.closable (fallback : Endpoint → Endpoint → Routing Service) (id : Nat) :
    Closable (Use Service) Op where
  perform := perform fallback
  close u := ({ u with network := (u.network.close id).1 }, (u.network.close id).2)
  closes := Op.closes id
  closed? u := (u.network.session? id).map Session.closed
  perform_close {u op} hop := by
    cases op with
    | close j => rw [perform, beq_iff_eq.1 hop]
    | _ => cases hop
  closed?_perform {u op c} h := by
    obtain ⟨s, hs, rfl⟩ := Option.map_eq_some_iff.1 h
    obtain ⟨s', hs', hc⟩ := Use.closed_perform hs op
    rw [hs', Option.map_some, hc]
  close_open {u} h := by
    obtain ⟨s, hs, hc⟩ := Option.map_eq_some_iff.1 h
    unfold Network.close
    rw [hs]
    simp [hc]
  close_closed {u} h := by
    obtain ⟨s, hs, hc⟩ := Option.map_eq_some_iff.1 h
    rw [(Network.over_of_closed hs hc).close]

end Tether.Direct

namespace Tether.Agent

open Tether.Control Tether.Overlay Tether.Sim

/-! ## The next tick -/

/-- The supervisor has begun, at a time, to replace the session that it held: the check failed, the
session was withdrawn, and the next key was asked for. -/
structure Supervisor.Replaces (s s' : Supervisor) (id time : Nat) : Prop where
  phase : s'.phase = .building (s.source.ask time 1).2
  source : s'.source = (s.source.ask time 1).1
  now : s'.now = time
  state : s'.state = .connecting
  slot : s'.slot = none
  current : s'.current = none
  generation : s'.generation = s.generation
  history : s'.history =
    [Event.begun, .state .connecting, .closed id, .slot none, .state .unhealthy,
      .checked false].map (time, ·) ++ s.history
  setup : s'.setup = s.setup
  pending : s'.pending = s.pending
  sessions : s'.net.sessions.length = s.net.sessions.length
  startFailures : s'.net.startFailures = s.net.startFailures
  failListen : s'.net.failListen = s.net.failListen

/-- What there is of a supervisor when it has begun to replace the session that it held. -/
theorem Supervisor.reconnect_held {s : Supervisor} {id : Nat} (hc : s.current = some id) :
    s.reconnect = { s with
      phase := .building (s.source.ask s.now 1).2
      source := (s.source.ask s.now 1).1
      net := (s.net.close id).1
      state := .connecting
      slot := none
      current := none
      history := [Event.begun, .state .connecting, .closed id, .slot none, .state .unhealthy].map
        (s.now, ·) ++ s.history
      log := s.reconnect.log } := by
  have hheld : (s.publish .unhealthy).current = some id := hc
  unfold reconnect withdraw
  rw [hheld]
  rfl

theorem Supervisor.replaces_act {s : Supervisor} {deadline : Time.Span} {id : Nat}
    (hp : s.phase = .watching deadline) (hc : s.current = some id) (ho : s.net.isOpen id = false) :
    s.Replaces s.act id deadline.ticks := by
  have hcalm := s.net.calm_checkHealth (some id)
  have hfailed : (checkHealth s.net (some id)).2.isOk = false := by
    rw [checkHealth_eq_findings,
      Network.status_closed ((Network.isOpen_congr (Network.sessions_localClient _) id).trans ho)]
    generalize s.net.localClient.2 = client
    cases client <;> rfl
  obtain ⟨sessions, hclose⟩ := (checkHealth s.net (some id)).1.close_eq id
  rw [act_watching hp]
  unfold check
  dsimp only
  rw [hc, hfailed, if_neg Bool.false_ne_true, reconnect_held rfl]
  refine ⟨rfl, rfl, rfl, rfl, rfl, rfl, rfl, rfl, rfl, rfl, ?_, ?_, ?_⟩
  · exact (Network.length_close _ _).trans (congrArg List.length hcalm.sessions)
  · exact (congrArg Network.startFailures hclose).trans hcalm.startFailures
  · exact (congrArg Network.failListen hclose).trans hcalm.failListen

/-- A key that comes at once puts the next session into service at the same tick, if the network
lets it. -/
theorem Supervisor.Replaces.act {s s' : Supervisor} {id time : Nat} {key : Key}
    (h : s.Replaces s' id time) (hkey : s.source.result (s.source.calls + 1) = .ok key)
    (hdelay : (s.source.reply (s.source.calls + 1)).delay = 0)
    (hstart : s.net.startFailures = 0) (hlisten : s.net.failListen = false)
    (hpending : s.pending = false) :
    s'.act.now = time ∧
      s'.act.slot = some ⟨s.generation + 1, s.net.sessions.length + 1⟩ ∧
      s'.act.current = some (s.net.sessions.length + 1) ∧
      s'.act.net.isOpen (s.net.sessions.length + 1) = true ∧ s'.act.state = .connected := by
  have hstage : (s.source.ask time 1).2 = ⟨1, time, .asking (.ok key)⟩ := by
    unfold Source.ask
    dsimp only
    rw [hkey, hdelay]
    rfl
  have hphase := h.phase
  rw [hstage] at hphase
  obtain ⟨log, hact⟩ := act_key hphase rfl
  obtain ⟨net, listener, hbuild, hopen, -⟩ := Network.build_ready
    (h.startFailures.trans hstart) (h.failListen.trans hlisten) s'.setup.settings key
  rw [h.sessions] at hbuild hopen
  -- the supervisor when the build is concluded; it only has to set its timer
  let built : Supervisor := (settleBuild { s' with now := time, log := log, net := net }
    (.ready (s.net.sessions.length + 1) listener)).conclude none
  have hrebuild : s'.act = built.rearm := by
    rw [hact]
    unfold rebuild finishBuild
    dsimp only
    rw [hbuild]
    rfl
  obtain ⟨phase, hidle⟩ := rearm_idle (s := built) (h.pending.trans hpending)
  rw [hrebuild, hidle]
  refine ⟨rfl, ?_, rfl, hopen, rfl⟩
  show some (Slot.mk (s'.generation + 1) _) = _
  rw [h.generation]

/-! ## Finality -/

/-- On both backends, whatever is done with an open session, the first close of it succeeds and each
later one finds it closed; without a close it stays open, and with one it is all over with it, for
all who have it or a client of it. A supervisor whose session was closed begins to replace it at its
next tick, whatever outcomes are scripted; a key that comes at once ends the replacement. -/
theorem close_final :
    (∀ (n : Network) (id : Nat) (ops : List Network.Op), n.isOpen id = true →
      let k := Network.closable id
      k.answers n ops = Closable.firstOnly (ops.countP k.closes) ∧
        if ops.any k.closes then (k.run n ops).Over id else (k.run n ops).isOpen id = true) ∧
    (∀ (Service : Type) (fallback : Net.Endpoint → Net.Endpoint → Routing Service)
      (u : Direct.Use Service) (id : Nat) (s : Direct.Session Service) (ops : List Direct.Op),
      u.network.session? id = some s → s.closed = false →
      let k := Direct.Use.closable fallback id
      k.answers u ops = Closable.firstOnly (ops.countP k.closes) ∧
        if ops.any k.closes then (k.run u ops).network.Over id
        else ∃ s', (k.run u ops).network.session? id = some s' ∧ s'.closed = false) ∧
    ∀ (s : Supervisor) (deadline : Time.Span) (id limit : Nat),
      s.phase = .watching deadline → s.current = some id → s.net.isOpen id = false →
      deadline.ticks ≤ limit →
      s.Replaces s.act id deadline.ticks ∧ s.runTo limit = s.act.runTo limit ∧
        ∀ key, s.source.result (s.source.calls + 1) = .ok key →
          (s.source.reply (s.source.calls + 1)).delay = 0 →
          s.net.startFailures = 0 → s.net.failListen = false → s.pending = false →
          s.runTo limit = s.act.act.runTo limit ∧ s.act.act.now = deadline.ticks ∧
            s.act.act.slot = some ⟨s.generation + 1, s.net.sessions.length + 1⟩ ∧
            s.act.act.net.isOpen (s.net.sessions.length + 1) = true := by
  refine ⟨fun n id ops hopen => ?_, fun Service fallback u id s ops hs hclosed => ?_,
    fun s deadline id limit hp hc ho hl => ?_⟩
  · obtain ⟨s, hs, hclosed⟩ : ∃ s, n.session? id = some s ∧ s.closed = false := by
      rw [Network.isOpen_eq] at hopen
      obtain ⟨s, hs, hc⟩ := (Option.any_eq_true _ _).1 hopen
      exact ⟨s, hs, by simpa using hc⟩
    have hfirst : (Network.closable id).closed? n = some false := by
      show (n.session? id).map Session.closed = some false
      rw [hs, ← hclosed]
      rfl
    obtain ⟨s', hs', hclosed', hports⟩ :=
      Network.exists_closed_run hs (fun h => by simp [hclosed] at h) ops
    rw [hclosed, Bool.false_or] at hclosed'
    refine ⟨(Network.closable id).answers_run hfirst ops, ?_⟩
    split
    · rename_i hany
      have hend : s'.closed = true := hclosed'.trans hany
      exact Network.over_of_closed hs' hend (hports hend)
    · rename_i hany
      have hend : s'.closed = false := hclosed'.trans (Bool.eq_false_iff.2 hany)
      rw [Network.isOpen_eq, hs', Option.any_some, hend]
      rfl
  · have hfirst : (Direct.Use.closable fallback id).closed? u = some false := by
      show (u.network.session? id).map Direct.Session.closed = some false
      rw [hs, ← hclosed]
      rfl
    have hlast := (Direct.Use.closable fallback id).closed?_run hfirst ops
    rw [Bool.false_or] at hlast
    obtain ⟨s', hs', hclosed'⟩ := Option.map_eq_some_iff.1 hlast
    refine ⟨(Direct.Use.closable fallback id).answers_run hfirst ops, ?_⟩
    split
    · rename_i hany
      exact Direct.Network.over_of_closed hs' (hclosed'.trans hany)
    · rename_i hany
      exact ⟨s', hs', hclosed'.trans (Bool.eq_false_iff.2 hany)⟩
  · have hreplaces := Supervisor.replaces_act hp hc ho
    have hrun : s.runTo limit = s.act.runTo limit := by
      refine Supervisor.runTo_due ?_ hl
      simp only [Supervisor.due?, hp]
    refine ⟨hreplaces, hrun, fun key hkey hdelay hstart hlisten hpending => ?_⟩
    obtain ⟨hnow, hslot, -, hisOpen, -⟩ := hreplaces.act hkey hdelay hstart hlisten hpending
    refine ⟨hrun.trans ?_, hnow, hslot, hisOpen⟩
    have hdue : s.act.due? = some deadline.ticks := by
      simp only [Supervisor.due?, hreplaces.phase, Source.ask, hdelay, Nat.add_zero]
    exact Supervisor.runTo_due hdue hl

/-- One session, closed twice, with a member still to come on the script. -/
theorem close_final_twice :
    let n := (Network.start {} ⟨"node", "https://control", true, "/state", "key"⟩).1
    let ops : List Network.Op := [.listen 1 80, .close 1, .scriptHealth [.member], .close 1]
    n.isOpen 1 = true ∧
      (Network.closable 1).answers n ops = [.ok (), .error .closed] ∧
      (checkHealth ((Network.closable 1).run n ops) (some 1)).2 =
        .error (.notMember "Stopped") := by
  intro n ops
  obtain ⟨hanswers, hover⟩ := close_final.1 n 1 ops rfl
  exact ⟨rfl, hanswers, hover.check [.member]⟩

end Tether.Agent
