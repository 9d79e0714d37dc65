import Tether.Proofs.Direct.Use
import Tether.Proofs.Relay.Book
import Tether.Proofs.Relay.Integrity

/-!
The relay at its station: an overlay whose sessions are started, closed and replaced, and the board
with the connections that came over them. Connections arrive on forwards of the overlay or over
other sessions, their dials are answered, and their peers and services act, in any order;
`Station.run` is the station behind a list of such steps. What becomes of a connection follows from
how its dial was answered (`Fate`), so the rows of the book are always those of the connections
whose dial succeeded and whose pipe has not returned (`Station.book_shows_live`).
-/

namespace Tether.Relay

open Tether.Net Tether.Overlay Tether.Disk Function
open scoped List

/-! ## Acts of an end -/

/-- What an end does to its stream, with the bytes that were sent and those that were received. -/
def Act.on (x : Act) (s : Side) (d : Duplex) : Duplex × List UInt8 × List UInt8 :=
  match x with
  | .write bytes => ((d.write s bytes).1, bytes.take (d.write s bytes).2.count, [])
  | .read limit => ((d.drain s limit).1, [], (d.drain s limit).2.1)
  | .shutdown => (d.shutdown s, [], [])
  | .drop => (d.drop s, [], [])

/-- A stream into which the accepting end has written nothing and from which it has read nothing. -/
structure Untouched (d : Duplex) (sent received : List UInt8) : Prop where
  sent : d.fromDialer.buffer = sent
  received : received = []
  empty : d.fromAcceptor.buffer = []

/-- As long as the accepting end does nothing, no byte of the dialer gets further, and none comes
back. -/
theorem Untouched.act {d : Duplex} {sent received : List UInt8} (h : Untouched d sent received)
    (x : Act) : Untouched (x.on .dialer d).1 (sent ++ (x.on .dialer d).2.1)
      (received ++ (x.on .dialer d).2.2) := by
  obtain ⟨rfl, rfl, hempty⟩ := h
  cases x with
  | write bytes => exact ⟨Channel.buffer_write .., rfl, hempty⟩
  | read limit =>
    have hd := d.fromAcceptor.drain_append limit
    rw [hempty, List.append_eq_nil_iff] at hd
    exact ⟨(List.append_nil _).symm, hd.1, hd.2⟩
  | shutdown => exact ⟨(List.append_nil _).symm, rfl, hempty⟩
  | drop => exact ⟨(List.append_nil _).symm, rfl, hempty⟩

/-- Both directions of a stream are closed. -/
def IsClosed (d : Duplex) : Prop := d.fromDialer.closed = true ∧ d.fromAcceptor.closed = true

theorem IsClosed.act {d : Duplex} (h : IsClosed d) (x : Act) : IsClosed (x.on .dialer d).1 := by
  cases x with
  | write bytes => exact ⟨(Channel.closed_write ..).trans h.1, h.2⟩
  | read limit => exact ⟨h.1, (Channel.closed_drain ..).trans h.2⟩
  | shutdown => exact ⟨rfl, h.2⟩
  | drop => exact ⟨rfl, rfl⟩

/-! ## The fate of a connection -/

/-- How the dial of a connection was answered. -/
inductive Dial
  | pending
  | succeeded
  | failed
  deriving DecidableEq, Repr

/-- What becomes of a connection whose dial was answered so, and whose peer has sent and received
these bytes. -/
inductive Fate : Option Stage → Dial → List UInt8 → List UInt8 → Prop
  | absent : Fate none .pending [] []
  | dialing {d : Duplex} {sent received : List UInt8} : Untouched d sent received →
      Fate (some (.dialing d)) .pending sent received
  | answered {st : Stage} {sent received : List UInt8} : st.Answered →
      Fate (some st) .succeeded sent received
  | failed {e : Error} {d : Duplex} {sent received : List UInt8} : Untouched d sent received →
      IsClosed d → Fate (some (.ended (.error e) d)) .failed sent received

/-! ## The station -/

/-- The overlay and the board, and what has happened to the connections. -/
structure Station where
  overlay : Direct.Use Record
  board : Board
  /-- Where each connection came from and where it aimed, in the order of arrival. -/
  routed : List (Endpoint × Endpoint)
  /-- How the dial of a connection was answered. -/
  dials : Nat → Dial
  /-- The bytes of a peer that its stream took. -/
  sent : Nat → List UInt8
  /-- The bytes that a peer has read. -/
  received : Nat → List UInt8

/-- One thing that happens at a station. -/
inductive Step
  | overlay (op : Direct.Op)
  /-- A connection reaches this host. -/
  | arrive (source target : Endpoint)
  /-- A session of another overlay brings a connection. -/
  | route (source destination : Endpoint)
  /-- A dial succeeds, with a stream of a capacity to the service. -/
  | connected (connection capacity : Nat)
  | unreachable (connection : Nat) (fault : Fault)
  | peer (connection : Nat) (act : Act)
  | service (connection : Nat) (act : Act)
  deriving DecidableEq, Repr

namespace Station

/-- A station at which nothing has happened yet. -/
def fresh (config : Direct.Config) (host : Host) (tree : Tree) : Station :=
  ⟨.fresh config host tree, {}, [], fun _ => .pending, fun _ => [], fun _ => []⟩

/-- The connection is being dialed. -/
def isDialing (s : Station) (i : Nat) : Bool := s.board.connections[i]?.any Connection.isDialing

/-- The dial of the connection succeeded and its pipe has not returned. -/
def isLive (s : Station) (i : Nat) : Bool :=
  s.dials i = .succeeded && s.board.connections[i]?.any (·.outcome?.isNone)

/-- What the book has to say of a connection between two endpoints. -/
def recordOf (host : String) (ends : Endpoint × Endpoint) : Record :=
  ⟨ends.1, ends.2, targetFor host ends.2⟩

/-- What the book has to say of the live connections. -/
def live (host : String) (s : Station) : List Record :=
  (List.range s.routed.length).filterMap fun i =>
    if s.isLive i then s.routed[i]?.map (recordOf host) else none

/-- A connection is brought before the relay and decided about. -/
def receive (s : Station) (routing : Routing Record) (ends : List (Endpoint × Endpoint)) :
    Station :=
  { s with board := (s.board.takeRouted routing).1, routed := s.routed ++ ends }

/-- Takes one step, with a relay to this host as the fallback of every session. -/
def perform (host : String) (s : Station) : Step → Station
  | .overlay op => { s with overlay := s.overlay.perform (route host) op }
  | .arrive source target =>
    match s.overlay.network.arrive source target with
    | .offered _ routing =>
      s.receive routing ((s.overlay.network.aim? target).toList.map (source, ·))
    | _ => s
  | .route source destination => s.receive (route host source destination) [(source, destination)]
  | .connected i capacity =>
    { s with
      board := s.board.connected i capacity
      dials := if s.isDialing i then update s.dials i .succeeded else s.dials }
  | .unreachable i fault =>
    { s with
      board := s.board.unreachable i fault
      dials := if s.isDialing i then update s.dials i .failed else s.dials }
  | .peer i x =>
    let r := s.board.peer i (x.on .dialer)
    { s with
      board := r.1
      sent := update s.sent i (s.sent i ++ (r.2.map Prod.fst).getD [])
      received := update s.received i (s.received i ++ (r.2.map Prod.snd).getD []) }
  | .service i x => { s with board := (s.board.service i (x.on .acceptor)).1 }

/-- The station behind a list of steps. -/
def run (host : String) (s : Station) (steps : List Step) : Station :=
  steps.foldl (perform host) s

/-- The book and the connections agree with what has happened. -/
structure Sound (host : String) (s : Station) : Prop where
  fallback : s.overlay.network.HasFallback (route host)
  records : s.board.connections.map Connection.record = s.routed.map (some ∘ recordOf host)
  booked : Booked s.board.tracker s.board.connections
  fate : ∀ i, Fate (s.board.connections[i]?.map Connection.stage) (s.dials i) (s.sent i)
    (s.received i)

namespace Sound

variable {host : String} {s s' : Station} {i : Nat} {c : Connection} {st : Stage}

theorem fresh (host : String) (config : Direct.Config) (h : Host) (tree : Tree) :
    Sound host (.fresh config h tree) where
  fallback _ hs := absurd hs List.not_mem_nil
  records := rfl
  booked := .empty
  fate _ := .absent

theorem record (h : Sound host s) (hc : s.board.connections[i]? = some c) :
    ∃ ends, s.routed[i]? = some ends ∧ c.record = some (recordOf host ends) := by
  have hr : (s.board.connections.map Connection.record)[i]? = some c.record := by
    rw [List.getElem?_map, hc]
    rfl
  rw [h.records, List.getElem?_map, Option.map_eq_some_iff] at hr
  obtain ⟨ends, he, hr⟩ := hr
  exact ⟨ends, he, hr.symm⟩

theorem length_eq (h : Sound host s) : s.board.connections.length = s.routed.length := by
  simpa using congrArg List.length h.records

/-- One connection comes to a stage that agrees with what has happened to it. -/
theorem turns (h : Sound host s) (ho : s'.overlay = s.overlay) (hr : s'.routed = s.routed)
    (hc : s.board.connections[i]? = some c) (ht : s.board.Turns i st s'.board)
    (hi : Fate (some st) (s'.dials i) (s'.sent i) (s'.received i))
    (hj : ∀ j, j ≠ i → s'.dials j = s.dials j ∧ s'.sent j = s.sent j ∧
      s'.received j = s.received j) : Sound host s' where
  fallback := by
    rw [ho]
    exact h.fallback
  records := by
    rw [hr, ht.connections, ← h.records]
    refine List.ext_getElem? fun j => ?_
    simp only [Board.setStage, List.getElem?_map, List.getElem?_modify]
    cases s.board.connections[j]? with
    | none => rfl
    | some c =>
      simp only [Option.map_eq_map, Option.map_some]
      split <;> rfl
  booked := ht.booked
  fate j := by
    have hs : s'.board.connections[j]? =
        (fun c => if i = j then { c with stage := st } else c) <$> s.board.connections[j]? := by
      rw [ht.connections, Board.setStage, List.getElem?_modify]
    rw [hs]
    by_cases hij : j = i
    · subst hij
      rw [hc]
      simpa using hi
    · obtain ⟨hd, hsent, hrec⟩ := hj j hij
      rw [hd, hsent, hrec]
      simpa [Ne.symm hij] using h.fate j

/-- A connection that the relay takes is dialed. -/
theorem receive (h : Sound host s) (source destination : Endpoint) :
    Sound host (s.receive (route host source destination) [(source, destination)]) where
  fallback := h.fallback
  records := by
    show (s.board.connections ++ [_]).map Connection.record = _
    rw [List.map_append, h.records, Station.receive, List.map_append]
    rfl
  booked := h.booked.take rfl
  fate j := by
    have hf := h.fate j
    show Fate ((s.board.connections ++ [_])[j]?.map Connection.stage) (s.dials j) (s.sent j)
      (s.received j)
    by_cases hlt : j < s.board.connections.length
    · rwa [List.getElem?_append_left hlt]
    · -- nothing has happened to a connection before it comes
      rw [List.getElem?_eq_none (by omega)] at hf
      generalize s.dials j = d at hf ⊢
      generalize s.sent j = sent at hf ⊢
      generalize s.received j = received at hf ⊢
      cases hf
      by_cases heq : j = s.board.connections.length
      · subst heq
        rw [List.getElem?_concat_length]
        exact .dialing ⟨rfl, rfl, rfl⟩
      · rw [List.getElem?_eq_none (by rw [List.length_append, List.length_singleton]; omega)]
        exact .absent

theorem isDialing_iff (h : Sound host s) (i : Nat) :
    s.isDialing i = true ↔ ∃ c d, s.board.connections[i]? = some c ∧ c.stage = .dialing d ∧
      Untouched d (s.sent i) (s.received i) := by
  have hf := h.fate i
  unfold isDialing
  cases hc : s.board.connections[i]? with
  | none => simp
  | some c =>
    rw [hc] at hf
    obtain ⟨record, address, stage⟩ := c
    cases stage with
    | dialing d =>
      generalize s.dials i = a at hf
      cases hf with
      | dialing hu => simp [Connection.isDialing, hu]
      | answered ha => exact ha.elim
    | relaying id p => simp [Connection.isDialing]
    | ended outcome d => simp [Connection.isDialing]

/-- A board that has not changed. -/
theorem unchanged (h : Sound host s) (ho : s'.overlay = s.overlay) (hb : s'.board = s.board)
    (hr : s'.routed = s.routed) (hd : s'.dials = s.dials) (hsent : s'.sent = s.sent)
    (hrec : s'.received = s.received) : Sound host s' where
  fallback := ho ▸ h.fallback
  records := by
    rw [hb, hr]
    exact h.records
  booked := hb ▸ h.booked
  fate i := by
    rw [hb, hd, hsent, hrec]
    exact h.fate i

theorem connected (h : Sound host s) (i capacity : Nat) :
    Sound host (s.perform host (.connected i capacity)) := by
  by_cases hd : s.isDialing i = true
  · obtain ⟨c, d, hc, hst, -⟩ := (h.isDialing_iff i).1 hd
    obtain ⟨ends, -, hr⟩ := h.record hc
    have hdial : c.isDialing = true := by
      unfold Connection.isDialing
      rw [hst]
    obtain ⟨st, ht, ha⟩ := Board.turns_connected hc hdial (by rw [hr]; rfl) h.booked capacity
    refine h.turns rfl rfl hc ht ?_ ?_
    · simp only [perform, if_pos hd, update_self]
      exact .answered ha
    · intro j hj
      simp [perform, hd, update_of_ne hj]
  · have hb : s.board.connected i capacity = s.board :=
      Board.connected_of_not_dialing (by simpa [isDialing] using hd) capacity
    exact h.unchanged rfl hb rfl (if_neg hd) rfl rfl

theorem unreachable (h : Sound host s) (i : Nat) (fault : Fault) :
    Sound host (s.perform host (.unreachable i fault)) := by
  by_cases hd : s.isDialing i = true
  · obtain ⟨c, d, hc, hst, hu⟩ := (h.isDialing_iff i).1 hd
    have ht := Board.turns_unreachable hc hst h.booked fault
    refine h.turns rfl rfl hc ht ?_ ?_
    · simp only [perform, if_pos hd, update_self]
      exact .failed ⟨hu.sent, hu.received, hu.empty⟩ ⟨rfl, rfl⟩
    · intro j hj
      simp [perform, hd, update_of_ne hj]
  · have hb : s.board.unreachable i fault = s.board :=
      Board.unreachable_of_not_dialing (by simpa [isDialing] using hd) fault
    exact h.unchanged rfl hb rfl (if_neg hd) rfl rfl

theorem peer (h : Sound host s) (i : Nat) (x : Act) :
    Sound host (s.perform host (.peer i x)) := by
  cases hc : s.board.connections[i]? with
  | none =>
    have hb : s.board.peer i (x.on .dialer) = (s.board, none) := by
      unfold Board.peer
      rw [hc]
    refine h.unchanged rfl ?_ rfl rfl ?_ ?_
    · simp only [perform, hb]
    · simp [perform, hb]
    · simp [perform, hb]
  | some c =>
    obtain ⟨ends, -, hr⟩ := h.record hc
    obtain ⟨hact, ht⟩ := Board.turns_peer hc (by rw [hr]; rfl) h.booked (x.on .dialer)
    have hj (j : Nat) (hj : j ≠ i) : (s.perform host (.peer i x)).dials j = s.dials j ∧
        (s.perform host (.peer i x)).sent j = s.sent j ∧
        (s.perform host (.peer i x)).received j = s.received j := by
      simp [perform, update_of_ne hj]
    have hsent : (s.perform host (.peer i x)).sent i =
        s.sent i ++ (x.on .dialer c.inbound).2.1 := by simp [perform, hact]
    have hrec : (s.perform host (.peer i x)).received i =
        s.received i ++ (x.on .dialer c.inbound).2.2 := by simp [perform, hact]
    have hf := h.fate i
    obtain ⟨record, address, stage⟩ := c
    rw [hc, Option.map_some] at hf
    -- the peer is cut off from the service unless the dial succeeded
    cases stage with
    | dialing d =>
      refine h.turns rfl rfl hc ht ?_ hj
      rw [hsent, hrec]
      show Fate _ (s.dials i) _ _
      generalize s.dials i = a at hf ⊢
      cases hf with
      | dialing hu => exact .dialing (hu.act x)
      | answered ha => exact ha.elim
    | ended outcome d =>
      refine h.turns rfl rfl hc ht ?_ hj
      rw [hsent, hrec]
      show Fate _ (s.dials i) _ _
      generalize s.dials i = a at hf ⊢
      cases hf with
      | failed hu hclosed => exact .failed (hu.act x) (hclosed.act x)
      | answered ha => exact .answered ha
    | relaying id p =>
      generalize hd : s.dials i = a at hf
      cases hf with
      | answered ha =>
        obtain ⟨st, ht, ha'⟩ := ht ha.1
        refine h.turns rfl rfl hc ht ?_ hj
        show Fate _ (s.dials i) _ _
        rw [hd]
        exact .answered ha'

theorem service (h : Sound host s) (i : Nat) (x : Act) :
    Sound host (s.perform host (.service i x)) := by
  have hf := h.fate i
  by_cases hs : ∃ c id p, s.board.connections[i]? = some c ∧ c.stage = .relaying id p
  · obtain ⟨c, id, p, hc, hst⟩ := hs
    obtain ⟨ends, -, hr⟩ := h.record hc
    rw [hc, Option.map_some, hst] at hf
    generalize hd : s.dials i = a at hf
    cases hf with
    | answered ha =>
      obtain ⟨st, ht, ha'⟩ :=
        Board.turns_service hc hst ha.1 (by rw [hr]; rfl) h.booked (x.on .acceptor)
      refine h.turns rfl rfl hc ht ?_ fun _ _ => ⟨rfl, rfl, rfl⟩
      show Fate _ (s.dials i) _ _
      rw [hd]
      exact .answered ha'
  · have hb : (s.board.service i (x.on .acceptor)).1 = s.board := by
      unfold Board.service
      split
      · rename_i record address id p hc
        exact absurd ⟨_, id, p, hc, rfl⟩ hs
      · rfl
    exact h.unchanged rfl hb rfl rfl rfl rfl

/-- Every step agrees with what has happened. -/
theorem perform (h : Sound host s) (x : Step) : Sound host (s.perform host x) := by
  cases x with
  | overlay op =>
    exact ⟨Direct.Use.hasFallback_perform h.fallback op, h.records, h.booked, h.fate⟩
  | arrive source target =>
    obtain ⟨id, dst, hd, ha⟩ | ⟨-, hn⟩ :=
      Direct.Network.arrive_of_hasFallback h.fallback source target
    · simp only [Station.perform, ha, hd]
      exact h.receive source dst
    · unfold Station.perform
      dsimp only
      split
      · rename_i ha
        exact absurd ha (hn _ _)
      · exact h
  | route source destination => exact h.receive source destination
  | connected i capacity => exact h.connected i capacity
  | unreachable i fault => exact h.unreachable i fault
  | peer i x => exact h.peer i x
  | service i x => exact h.service i x

theorem run (h : Sound host s) (steps : List Step) : Sound host (s.run host steps) := by
  induction steps generalizing s with
  | nil => exact h
  | cons x steps ih => exact ih (h.perform x)

/-! ## What the book shows -/

/-- The book holds a connection just when that is live. -/
theorem entry?_eq (h : Sound host s) (hc : s.board.connections[i]? = some c) :
    c.entry?.map Prod.snd = if s.isLive i then s.routed[i]?.map (recordOf host) else none := by
  obtain ⟨ends, he, hr⟩ := h.record hc
  have hf := h.fate i
  unfold isLive
  rw [hc, Option.map_some] at hf
  rw [hc, he]
  obtain ⟨record, address, stage⟩ := c
  cases hr
  generalize s.dials i = a at hf ⊢
  cases hf with
  | dialing _ => rfl
  | failed _ _ => rfl
  | answered ha =>
    cases stage with
    | dialing d => exact ha.elim
    | relaying id p =>
      obtain ⟨n, rfl⟩ := Option.isSome_iff_exists.1 ha.1
      rfl
    | ended outcome d => rfl

theorem records_perm (h : Sound host s) : s.board.tracker.records ~ s.live host := by
  have hlive : (s.board.connections.filterMap Connection.entry?).map Prod.snd = s.live host := by
    rw [List.map_filterMap]
    unfold live
    rw [← h.length_eq]
    -- connection by connection, in the order of arrival
    rw [filterMap_eq_range]
    refine List.filterMap_congr fun j hj => ?_
    rw [List.mem_range] at hj
    rw [← h.entry?_eq (List.getElem?_eq_getElem hj)]
    simp [hj]
  exact hlive ▸ h.booked.entries.map Prod.snd

/-- Behind a dial that failed the stream to the peer is closed, and no byte has moved on it. -/
theorem failed (h : Sound host s) (hd : s.dials i = .failed) :
    ∃ c e, s.board.connections[i]? = some c ∧ c.outcome? = some (.error e) ∧
      IsClosed c.inbound ∧ Untouched c.inbound (s.sent i) (s.received i) := by
  have hf := h.fate i
  rw [hd] at hf
  cases hc : s.board.connections[i]? with
  | none =>
    rw [hc] at hf
    cases hf
  | some c =>
    obtain ⟨record, address, stage⟩ := c
    rw [hc, Option.map_some] at hf
    cases hf with
    | @failed e d _ _ hu hclosed => exact ⟨_, e, rfl, rfl, hclosed, hu⟩

/-- A dial that succeeded stays so. -/
theorem succeeded_perform (h : Sound host s) (hd : s.dials i = .succeeded) (x : Step) :
    (s.perform host x).dials i = .succeeded := by
  have hne (j : Nat) (hj : s.isDialing j = true) : i ≠ j := by
    rintro rfl
    obtain ⟨c, d, hc, hst, -⟩ := (h.isDialing_iff i).1 hj
    have hf := h.fate i
    rw [hc, Option.map_some, hst, hd] at hf
    cases hf with
    | answered ha => exact ha
  cases x with
  | connected j capacity =>
    unfold Station.perform
    dsimp only
    split
    · rename_i hj
      rwa [update_of_ne (hne j hj)]
    · exact hd
  | unreachable j fault =>
    unfold Station.perform
    dsimp only
    split
    · rename_i hj
      rwa [update_of_ne (hne j hj)]
    · exact hd
  | arrive source target =>
    unfold Station.perform
    dsimp only
    split
    · exact hd
    · exact hd
  | overlay _ | route _ _ | peer _ _ | service _ _ => exact hd

theorem succeeded_run (h : Sound host s) (hd : s.dials i = .succeeded) (steps : List Step) :
    (s.run host steps).dials i = .succeeded := by
  induction steps generalizing s with
  | nil => exact hd
  | cons x steps ih => exact ih (h.perform x) (h.succeeded_perform hd x)

end Sound

/-- The book shows what it should. -/
structure Shows (host : String) (s : Station) (steps : List Step) : Prop where
  /-- The rows are those of the connections whose dial succeeded and whose pipe has not returned. -/
  records : (s.run host steps).board.tracker.records ~ (s.run host steps).live host
  rows : (s.run host steps).board.tracker.rows ~ ((s.run host steps).live host).map Record.row
  /-- Behind a dial that failed the stream to the peer is closed and no byte has moved on it, and
  the connection was not in the book at any time. -/
  failed : ∀ i, (s.run host steps).dials i = .failed →
    (∃ c e, (s.run host steps).board.connections[i]? = some c ∧ c.outcome? = some (.error e) ∧
      IsClosed c.inbound ∧
      Untouched c.inbound ((s.run host steps).sent i) ((s.run host steps).received i)) ∧
    ∀ k, (s.run host (steps.take k)).isLive i = false
  /-- Nothing that is done with the overlay changes a row. -/
  overlay : ∀ op, ((s.run host steps).perform host (.overlay op)).board.tracker =
      (s.run host steps).board.tracker ∧
    ((s.run host steps).perform host (.overlay op)).live host = (s.run host steps).live host
  /-- When all connections are over the book is empty. -/
  empty : (∀ c ∈ (s.run host steps).board.connections, c.outcome? ≠ none) →
    (s.run host steps).board.tracker.relays = []

/-- Whatever happens at a station, at every moment the book shows the live connections. -/
theorem book_shows_live (host : String) (config : Direct.Config) (h : Host) (tree : Tree)
    (steps : List Step) : Shows host (.fresh config h tree) steps := by
  have hfresh := Sound.fresh host config h tree
  have hs := hfresh.run steps
  refine ⟨hs.records_perm, ?_, ?_, fun op => ⟨rfl, rfl⟩, ?_⟩
  · exact (List.mergeSort_perm _ _).trans (hs.records_perm.map _)
  · intro i hi
    refine ⟨hs.failed hi, fun k => ?_⟩
    -- a dial that had succeeded would not have failed later
    have hk := hfresh.run (steps.take k)
    have hsplit : (fresh config h tree).run host steps =
        ((fresh config h tree).run host (steps.take k)).run host (steps.drop k) := by
      unfold Station.run
      rw [← List.foldl_append, List.take_append_drop]
    rw [Bool.eq_false_iff]
    intro hlive
    unfold isLive at hlive
    rw [Bool.and_eq_true, decide_eq_true_eq] at hlive
    have hd := hk.succeeded_run hlive.1 (steps.drop k)
    rw [← hsplit, hi] at hd
    cases hd
  · intro hall
    have hnil : (((fresh config h tree).run host steps).board.connections.filterMap
        Connection.entry?) = [] := by
      refine List.filterMap_eq_nil_iff.2 fun c hc => ?_
      have ho := hall c hc
      obtain ⟨record, address, stage⟩ := c
      cases stage with
      | dialing d => rfl
      | relaying id p => exact absurd rfl ho
      | ended outcome d => rfl
    exact List.perm_nil.1 (hnil ▸ hs.booked.entries)

/-- A peer on this host. -/
def peerAt (port : UInt16) : Endpoint := ⟨.v4 .loopback, port⟩

/-- Of three connections one cannot be dialed; the other two overlap, and the one that was entered
first is over first. -/
def overlapping : List Step := [
  .route (peerAt 40001) (peerAt 80), .route (peerAt 40002) (peerAt 80),
  .route (peerAt 40003) (peerAt 443), .connected 1 16, .peer 2 (.write [7]),
  .unreachable 2 .unreachable, .connected 0 16, .overlay (.close 1), .peer 1 .drop]

theorem book_shows_live_overlapping :
    Shows "localhost" (.fresh {} {} {}) overlapping ∧
      ((fresh {} {} {}).run "localhost" overlapping).board.tracker.records =
        [⟨peerAt 40001, peerAt 80, "localhost:80"⟩] ∧
      ((fresh {} {} {}).run "localhost" overlapping).dials 2 = .failed ∧
      ((fresh {} {} {}).run "localhost" overlapping).sent 2 = [7] :=
  ⟨book_shows_live "localhost" {} {} {} overlapping, by decide +kernel, by decide +kernel,
    by decide +kernel⟩

end Station

end Tether.Relay
