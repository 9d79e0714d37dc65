import Mathlib.Data.List.Pairwise
import Tether.Proofs.Direct.Use
import Tether.Proofs.Lists

/-!
Who holds which socket. On a host no two sockets clash and no number is given twice (`Host.Sound`),
so a connection reaches the one socket that is bound where it aims (`Network.socketAt?_iff`). Of
these the backend holds a socket for every forward of every open session, bound to the port that
the forward names; no two forwards share one, and no listener has one of them (`Use.Placed`). Every
operation keeps it so (`Use.Placed.perform`), hence the socket of a forward leads to that forward
and its session (`Use.Placed.forwardOf?_eq`).
-/

namespace Tether.Net

/-! ## Sockets of a host -/

theorem Endpoint.clashes_comm (a b : Endpoint) : a.clashes b = b.clashes a := by
  unfold clashes
  rw [BEq.comm (a := a.port), BEq.comm (a := a.ip), Bool.or_assoc, Bool.or_assoc,
    Bool.or_comm a.ip.isUnspecified]

namespace Host

/-- No number is given twice, and no two sockets clash. -/
structure Sound (h : Host) : Prop where
  given : ∀ x ∈ h.sockets, x.1 < h.next
  apart : h.sockets.Pairwise fun x y => x.1 ≠ y.1 ∧ x.2.clashes y.2 = false

theorem sound_empty : Sound {} := ⟨fun _ hx => absurd hx List.not_mem_nil, .nil⟩

variable {h h' : Host} {ip : Ip} {port : UInt16} {id : Nat}

/-- A socket is bound under the next number, to the port that was asked for if one was. -/
theorem bind_ok (hb : h.bind ip port = .ok (h', id)) :
    id = h.next ∧ ∃ p, (port ≠ 0 → p = port) ∧ h.isFree ⟨ip, p⟩ = true ∧
      h' = { h with sockets := (h.next, ⟨ip, p⟩) :: h.sockets, next := h.next + 1 } := by
  have hat (p : UInt16) (hb : h.bindAt ⟨ip, p⟩ = .ok (h', id)) :
      id = h.next ∧ h.isFree ⟨ip, p⟩ = true ∧
        h' = { h with sockets := (h.next, ⟨ip, p⟩) :: h.sockets, next := h.next + 1 } := by
    unfold bindAt at hb
    split at hb
    · cases hb
    · split at hb
      · rename_i hfree
        cases hb
        exact ⟨rfl, hfree, rfl⟩
      · cases hb
  unfold bind at hb
  split at hb
  · obtain ⟨hid, hfree, hh⟩ := hat port hb
    exact ⟨hid, port, fun _ => rfl, hfree, hh⟩
  · rename_i hz
    split at hb
    · rename_i p _
      obtain ⟨hid, hfree, hh⟩ := hat p hb
      exact ⟨hid, p, fun hn => absurd hn hz, hfree, hh⟩
    · cases hb

theorem Sound.bind (hs : h.Sound) (hb : h.bind ip port = .ok (h', id)) : h'.Sound := by
  obtain ⟨-, p, -, hfree, rfl⟩ := bind_ok hb
  refine ⟨?_, ?_⟩
  · intro x hx
    rcases List.mem_cons.1 hx with rfl | hx
    · exact Nat.lt_succ_self _
    · exact Nat.lt_succ_of_lt (hs.given x hx)
  · refine List.pairwise_cons.2 ⟨fun x hx => ⟨?_, ?_⟩, hs.apart⟩
    · exact (Nat.ne_of_lt (hs.given x hx)).symm
    · unfold isFree at hfree
      rw [List.all_eq_true] at hfree
      rw [Endpoint.clashes_comm]
      simpa using hfree x hx

theorem Sound.release (hs : h.Sound) (id : Nat) : (h.release id).Sound where
  given x hx := hs.given x (List.mem_of_mem_filter hx)
  apart := hs.apart.filter _

theorem mem_release {x : Nat × Endpoint} :
    x ∈ (h.release id).sockets ↔ x ∈ h.sockets ∧ x.1 ≠ id := by
  simp [release]

theorem Sound.apart_of_ne {x y : Nat × Endpoint} (hs : h.Sound) (hx : x ∈ h.sockets)
    (hy : y ∈ h.sockets) (hne : x ≠ y) : x.1 ≠ y.1 ∧ x.2.clashes y.2 = false := by
  have hsymm : Std.Symm fun x y : Nat × Endpoint => x.1 ≠ y.1 ∧ x.2.clashes y.2 = false :=
    ⟨fun x y hxy => ⟨hxy.1.symm, by rw [Endpoint.clashes_comm]; exact hxy.2⟩⟩
  exact hs.apart.forall hx hy hne

/-- Two sockets that clash are the same. -/
theorem Sound.eq_of_clashes {x y : Nat × Endpoint} (hs : h.Sound) (hx : x ∈ h.sockets)
    (hy : y ∈ h.sockets) (hc : x.2.clashes y.2 = true) : x = y := by
  refine Decidable.byContradiction fun hne => ?_
  have hapart := (hs.apart_of_ne hx hy hne).2
  rw [hc] at hapart
  cases hapart

/-- A socket is bound to one endpoint. -/
theorem Sound.eq_of_fst {e e' : Endpoint} (hs : h.Sound) (hx : (id, e) ∈ h.sockets)
    (hy : (id, e') ∈ h.sockets) : e = e' := by
  refine Decidable.byContradiction fun hne => ?_
  refine (hs.apart_of_ne hx hy ?_).1 rfl
  intro heq
  exact hne (Prod.mk.inj heq).2

end Host

end Tether.Net

namespace Tether.Direct

open Tether.Net Tether.Overlay

variable {Service : Type}

/-- A connection reaches the socket that is bound where it aims, or to that port at every
address. -/
theorem Network.socketAt?_iff {n : Network Service} (h : n.host.Sound) {target : Endpoint}
    {socket : Nat} :
    n.socketAt? target = some socket ↔ ∃ e, (socket, e) ∈ n.host.sockets ∧
      e.port = target.port ∧ (e.ip = target.ip ∨ e.ip.isUnspecified = true) := by
  have hmatch (e : Endpoint) :
      (e.port == target.port && (e.ip == target.ip || e.ip.isUnspecified)) = true ↔
        e.port = target.port ∧ (e.ip = target.ip ∨ e.ip.isUnspecified = true) := by simp
  unfold socketAt?
  constructor
  · intro hs
    obtain ⟨⟨id, e⟩, hf, rfl⟩ := Option.map_eq_some_iff.1 hs
    have hp := List.find?_some hf
    exact ⟨e, List.mem_of_find?_eq_some hf, (hmatch e).1 hp⟩
  · rintro ⟨e, hm, he⟩
    cases hf : n.host.sockets.find? fun s =>
        s.2.port == target.port && (s.2.ip == target.ip || s.2.ip.isUnspecified) with
    | none =>
      have := List.find?_eq_none.1 hf _ hm
      exact absurd ((hmatch e).2 he) this
    | some x =>
      obtain ⟨id, e'⟩ := x
      have hp := List.find?_some hf
      have he' := (hmatch e').1 hp
      have hc : e'.clashes e = true := by
        unfold Endpoint.clashes
        rw [he'.1, he.1]
        rcases he'.2 with hi | hi <;> rcases he.2 with hj | hj <;> simp [hi, hj]
      have heq := h.eq_of_clashes (List.mem_of_find?_eq_some hf) hm hc
      rw [heq]
      rfl

/-! ## Sockets of the backend -/

/-- Forwards that were bound hold new sockets, one for each, on the ports that they name. -/
theorem bindForwards_ok {ip : Ip} {h h' : Host} {fs : List Forward} {bound : List (Nat × Forward)}
    (hs : h.Sound) (hb : bindForwards ip h fs = .ok (h', bound)) :
    h'.Sound ∧ h.next ≤ h'.next ∧ (∀ x ∈ h.sockets, x ∈ h'.sockets) ∧ bound.map Prod.snd = fs ∧
      (bound.map Prod.fst).Nodup ∧ ∀ x ∈ bound, h.next ≤ x.1 ∧ x.1 < h'.next ∧
        ∃ p, (x.1, ⟨ip, p⟩) ∈ h'.sockets ∧ (x.2.listen ≠ 0 → p = x.2.listen) := by
  induction fs generalizing h bound with
  | nil =>
    cases hb
    exact ⟨hs, Nat.le_refl _, fun _ hx => hx, rfl, .nil, fun _ hx => absurd hx List.not_mem_nil⟩
  | cons f fs ih =>
    rw [bindForwards] at hb
    cases hf : h.bind ip f.listen with
    | error fault =>
      rw [hf] at hb
      cases hb
    | ok r =>
      obtain ⟨h₁, id⟩ := r
      rw [hf] at hb
      dsimp only at hb
      split at hb
      · cases hb
      · rename_i h₂ rest hrest
        cases hb
        obtain ⟨hs₂, hle, hkeep, hsnd, hnodup, hbound⟩ := ih (hs.bind hf) hrest
        obtain ⟨rfl, p, hport, -, rfl⟩ := Host.bind_ok hf
        dsimp only at hle hbound
        refine ⟨hs₂, by omega, fun x hx => hkeep x (List.mem_cons_of_mem _ hx), ?_, ?_, ?_⟩
        · rw [List.map_cons, hsnd]
        · refine List.nodup_cons.2 ⟨fun hm => ?_, hnodup⟩
          obtain ⟨x, hx, he⟩ := List.mem_map.1 hm
          have := (hbound x hx).1
          omega
        · intro x hx
          rcases List.mem_cons.1 hx with rfl | hx
          · exact ⟨Nat.le_refl _, by omega, p, hkeep _ List.mem_cons_self, hport⟩
          · obtain ⟨hlo, hhi, hx⟩ := hbound x hx
            exact ⟨by omega, hhi, hx⟩

theorem mem_foldl_release {h : Host} {x : Nat × Endpoint} (bound : List (Nat × Forward)) :
    x ∈ (bound.foldl (fun h f => h.release f.1) h).sockets ↔
      x ∈ h.sockets ∧ ∀ y ∈ bound, x.1 ≠ y.1 := by
  induction bound generalizing h with
  | nil => simp
  | cons y bound ih =>
    rw [List.foldl_cons, ih, Host.mem_release, List.forall_mem_cons, and_assoc]

theorem sound_foldl_release {h : Host} (hs : h.Sound) (bound : List (Nat × Forward)) :
    (bound.foldl (fun h f => h.release f.1) h).Sound := by
  induction bound generalizing h with
  | nil => exact hs
  | cons y bound ih => exact ih (hs.release y.1)

theorem next_foldl_release (h : Host) (bound : List (Nat × Forward)) :
    (bound.foldl (fun h f => h.release f.1) h).next = h.next := by
  induction bound generalizing h with
  | nil => rfl
  | cons y bound ih => exact ih (h.release y.1)

namespace Use

variable {u : Use Service} {fallback : Endpoint → Endpoint → Routing Service}

/-- The sockets of the forwards of a session. -/
def forwardSockets (ss : List (Session Service)) : List Nat :=
  ss.flatMap fun s => s.forwards.map Prod.fst

/-- The sockets that the backend has for listeners and forwards. -/
def held (u : Use Service) : List Nat :=
  u.listeners.map Listener.socket ++ forwardSockets u.network.sessions

/-- The forwards of a session are bound on the address of the backend. -/
structure Binds (config : Config) (h : Host) (s : Session Service) : Prop where
  bindHost : s.bindHost = config.bindHost
  forwards : s.forwards = [] ∨ s.forwards.map Prod.snd = config.forwards
  bound : ∀ x ∈ s.forwards, ∃ p, (x.1, ⟨config.bindHost, p⟩) ∈ h.sockets ∧
    (x.2.listen ≠ 0 → p = x.2.listen)

/-- Where sockets are kept the forwards on them stay bound. -/
theorem Binds.mono {config : Config} {h h' : Host} {s : Session Service} (hs : Binds config h s)
    (hk : ∀ x ∈ s.forwards, ∀ e, (x.1, e) ∈ h.sockets → (x.1, e) ∈ h'.sockets) :
    Binds config h' s where
  bindHost := hs.bindHost
  forwards := hs.forwards
  bound x hx := by
    obtain ⟨p, hm, hp⟩ := hs.bound x hx
    exact ⟨p, hk x hx _ hm, hp⟩

/-- Every forward of a session holds a socket of its own. -/
structure Placed (config : Config) (u : Use Service) : Prop where
  setup : u.network.config = config
  host : u.network.host.Sound
  given : ∀ id ∈ u.held, id < u.network.host.next
  nodup : u.held.Nodup
  binds : ∀ s ∈ u.network.sessions, Binds config u.network.host s

namespace Placed

variable {config : Config}

theorem fresh (config : Config) {h : Host} (hs : h.Sound) (tree : Disk.Tree) :
    Placed config (.fresh config h tree : Use Service) where
  setup := rfl
  host := hs
  given _ hx := absurd hx List.not_mem_nil
  nodup := .nil
  binds _ hx := absurd hx List.not_mem_nil

theorem forwardSockets_append (front back : List (Session Service)) (s : Session Service) :
    forwardSockets (front ++ s :: back) =
      forwardSockets front ++ (s.forwards.map Prod.fst ++ forwardSockets back) := by
  unfold forwardSockets
  rw [List.flatMap_append, List.flatMap_cons]

theorem mem_held {s : Session Service} {x : Nat × Forward} (hs : s ∈ u.network.sessions)
    (hx : x ∈ s.forwards) : x.1 ∈ forwardSockets u.network.sessions :=
  List.mem_flatMap.2 ⟨s, hs, List.mem_map.2 ⟨x, hx, rfl⟩⟩

theorem start (h : Placed config u) (o : Options) :
    Placed config (u.perform fallback (.start o)) := by
  show Placed config { u with network := (u.network.start o).1 }
  obtain ⟨tree, e, he⟩ | ⟨tree, host, forwards, hb, he⟩ := u.network.start_cases o
  · rw [he]
    exact ⟨h.setup, h.host, h.given, h.nodup, h.binds⟩
  · rw [he]
    rw [h.setup] at hb
    obtain ⟨hs, hle, hkeep, hsnd, hnodup, hbound⟩ := bindForwards_ok h.host hb
    have hnew : ∀ id ∈ forwards.map Prod.fst, u.network.host.next ≤ id ∧ id < host.next := by
      intro id hid
      obtain ⟨x, hx, rfl⟩ := List.mem_map.1 hid
      exact ⟨(hbound x hx).1, (hbound x hx).2.1⟩
    -- the new sockets stand behind those that were held before
    generalize hss : (⟨o.hostname, o.controlUrl, u.network.config.bindHost, false, none, forwards⟩ :
      Session Service) = ss
    have hf : ss.forwards = forwards := by
      subst hss
      rfl
    have hheld : u.listeners.map Listener.socket ++
        forwardSockets (u.network.sessions ++ [ss]) = u.held ++ forwards.map Prod.fst := by
      unfold held
      rw [forwardSockets_append, hf, ← List.append_assoc]
      simp [forwardSockets]
    refine ⟨h.setup, hs, ?_, ?_, ?_⟩
    · intro id hid
      replace hid : id ∈ u.held ++ forwards.map Prod.fst := hheld ▸ hid
      rcases List.mem_append.1 hid with hid | hid
      · exact Nat.lt_of_lt_of_le (h.given id hid) hle
      · exact (hnew id hid).2
    · show (u.listeners.map Listener.socket ++ forwardSockets (u.network.sessions ++ [ss])).Nodup
      rw [hheld]
      exact nodup_append_of_lt h.nodup hnodup h.given fun id hid => (hnew id hid).1
    · intro s hs'
      rcases List.mem_append.1 hs' with hs' | hs'
      · exact (h.binds s hs').mono fun x _ e he => hkeep _ he
      · rw [List.mem_singleton] at hs'
        subst hs' hss
        exact ⟨by rw [h.setup], .inr hsnd, fun x hx => (hbound x hx).2.2⟩

/-- A session that is changed in nothing but its fallback. -/
theorem register (h : Placed config u) (id : Nat) :
    Placed config (u.perform fallback (.register id)) := by
  show Placed config { u with network := u.network.registerFallback id fallback }
  unfold Network.registerFallback Network.modifySession
  split
  · exact h
  · rename_i i
    cases hi : u.network.sessions[i]? with
    | none =>
      have hm : u.network.sessions.modify i (fun s => { s with fallback := some fallback }) =
          u.network.sessions := List.modify_eq_self (List.getElem?_eq_none_iff.1 hi)
      rw [hm]
      exact ⟨h.setup, h.host, h.given, h.nodup, h.binds⟩
    | some s =>
      obtain ⟨front, back, heq, -, hm⟩ := exists_split hi
      have hsockets : forwardSockets (front ++ { s with fallback := some fallback } :: back) =
          forwardSockets u.network.sessions := by
        rw [heq, forwardSockets_append, forwardSockets_append]
      have hheld : u.listeners.map Listener.socket ++
          forwardSockets (front ++ { s with fallback := some fallback } :: back) = u.held := by
        rw [hsockets]
        rfl
      rw [hm]
      refine ⟨h.setup, h.host, ?_, ?_, ?_⟩
      · intro id hid
        exact h.given id (hheld ▸ hid)
      · show (_ ++ forwardSockets (front ++ _ :: back)).Nodup
        rw [hheld]
        exact h.nodup
      · intro s' hs'
        have hb := h.binds
        rw [heq, List.forall_mem_append, List.forall_mem_cons] at hb
        rcases List.mem_append.1 hs' with hs' | hs'
        · exact hb.1 s' hs'
        · rcases List.mem_cons.1 hs' with rfl | hs'
          · exact ⟨hb.2.1.bindHost, hb.2.1.forwards, hb.2.1.bound⟩
          · exact hb.2.2 s' hs'

theorem listen (h : Placed config u) (id : Nat) (port : UInt16) :
    Placed config (u.perform fallback (.listen id port)) := by
  show Placed config ⟨(u.network.listen id port).1,
    u.listeners ++ (u.network.listen id port).2.toOption.toList⟩
  obtain ⟨e, he⟩ | ⟨s, host, socket, bound, -, -, hb, he⟩ := u.network.listen_cases id port
  · rw [he]
    have hnil : u.listeners ++ (Except.error e : Except Overlay.Error Listener).toOption.toList =
        u.listeners := List.append_nil _
    rw [hnil]
    exact h
  · rw [he]
    have hs := h.host.bind hb
    obtain ⟨rfl, p, -, -, rfl⟩ := Host.bind_ok hb
    have hperm : ((u.listeners ++ [(⟨id, u.network.host.next, bound⟩ : Listener)]).map
        Listener.socket ++
        forwardSockets u.network.sessions).Perm (u.held ++ [u.network.host.next]) := by
      rw [List.map_append, List.append_assoc, held, List.append_assoc]
      exact List.Perm.append_left _ List.perm_append_comm
    refine ⟨h.setup, hs, ?_, ?_, ?_⟩
    · intro x hx
      rcases List.mem_append.1 (hperm.mem_iff.1 hx) with hx | hx
      · exact Nat.lt_succ_of_lt (h.given x hx)
      · rw [List.mem_singleton] at hx
        subst hx
        exact Nat.lt_succ_self _
    · refine hperm.nodup_iff.2 (nodup_append_of_lt h.nodup (List.pairwise_singleton _ _) h.given ?_)
      intro y hy
      rw [List.mem_singleton] at hy
      exact Nat.le_of_eq hy.symm
    · intro s hs
      exact (h.binds s hs).mono fun x _ e he => List.mem_cons_of_mem _ he

theorem drop (h : Placed config u) (k : Nat) :
    Placed config (u.perform fallback (.drop k)) := by
  rw [perform]
  split
  · rename_i l hl
    refine ⟨h.setup, h.host.release l.socket, h.given, h.nodup, ?_⟩
    intro s hs
    refine (h.binds s hs).mono fun x hx e he => Host.mem_release.2 ⟨he, ?_⟩
    -- the listener's socket is none of a forward
    have hsocket : l.socket ∈ u.listeners.map Listener.socket :=
      List.mem_map.2 ⟨l, List.mem_of_getElem? hl, rfl⟩
    exact ((List.nodup_append.1 h.nodup).2.2 _ hsocket _ (mem_held hs hx)).symm
  · exact h

theorem close (h : Placed config u) (id : Nat) :
    Placed config (u.perform fallback (.close id)) := by
  show Placed config { u with network := (u.network.close id).1 }
  obtain ⟨e, he⟩ | ⟨s, hs, -, he⟩ := u.network.close_cases id
  · rw [he]
    exact h
  · rw [he]
    cases id with
    | zero => cases hs
    | succ i =>
      obtain ⟨front, back, heq, -, hm⟩ :=
        exists_split (show u.network.sessions[i]? = some s from hs)
      unfold Network.modifySession
      dsimp only
      rw [hm]
      have hnodup := h.nodup
      unfold held at hnodup
      rw [heq, forwardSockets_append] at hnodup
      have hsub : (u.listeners.map Listener.socket ++ forwardSockets (front ++
          { s with closed := true, forwards := [] } :: back)).Sublist u.held := by
        unfold held
        rw [heq, forwardSockets_append, forwardSockets_append]
        exact (List.Sublist.refl _).append ((List.Sublist.refl _).append
          (List.sublist_append_right _ _))
      refine ⟨h.setup, sound_foldl_release h.host _, ?_, h.nodup.sublist hsub, ?_⟩
      · intro x hx
        rw [next_foldl_release]
        exact h.given x (hsub.subset hx)
      · -- the sockets that are let go are none of another session's
        have hapart := (List.nodup_append.1 (List.nodup_append.1 hnodup).2.1)
        have hback := (List.nodup_append.1 hapart.2.1).2.2
        have hb := h.binds
        rw [heq, List.forall_mem_append, List.forall_mem_cons] at hb
        intro s' hs'
        rcases List.mem_append.1 hs' with hs' | hs'
        · refine (hb.1 s' hs').mono fun x hx e he => (mem_foldl_release _).2 ⟨he, fun y hy => ?_⟩
          refine hapart.2.2 _ (List.mem_flatMap.2 ⟨s', hs', List.mem_map.2 ⟨x, hx, rfl⟩⟩) _ ?_
          exact List.mem_append_left _ (List.mem_map.2 ⟨y, hy, rfl⟩)
        · rcases List.mem_cons.1 hs' with rfl | hs'
          · exact ⟨hb.2.1.bindHost, .inl rfl, fun x hx => absurd hx List.not_mem_nil⟩
          · refine (hb.2.2 s' hs').mono fun x hx e he =>
              (mem_foldl_release _).2 ⟨he, fun y hy => ?_⟩
            exact (hback _ (List.mem_map.2 ⟨y, hy, rfl⟩) _
              (List.mem_flatMap.2 ⟨s', hs', List.mem_map.2 ⟨x, hx, rfl⟩⟩)).symm

theorem perform (h : Placed config u) (op : Op) : Placed config (u.perform fallback op) := by
  cases op with
  | start o => exact h.start o
  | register id => exact h.register id
  | listen id port => exact h.listen id port
  | drop k => exact h.drop k
  | close id => exact h.close id

theorem run (h : Placed config u) (ops : List Op) : Placed config (u.run fallback ops) := by
  induction ops generalizing u with
  | nil => exact h
  | cons op ops ih => exact ih (h.perform op)

/-- The socket of a forward leads to that forward and its session. -/
theorem forwardOf?_eq (h : Placed config u) {id socket : Nat} {s : Session Service} {f : Forward}
    (hs : u.network.session? id = some s) (hf : (socket, f) ∈ s.forwards) :
    u.network.forwardOf? socket = some (id, s, f) := by
  cases id with
  | zero => cases hs
  | succ i =>
    obtain ⟨front, back, heq, hi, -⟩ :=
        exists_split (show u.network.sessions[i]? = some s from hs)
    have hnodup := (List.nodup_append.1 h.nodup).2.1
    rw [heq, forwardSockets_append, List.nodup_append] at hnodup
    obtain ⟨-, hrest, hfront⟩ := hnodup
    have hown : s.forwards.lookup socket = some f := by
      obtain ⟨before, after, hsplit⟩ := List.mem_iff_append.1 hf
      have hkeys := (List.nodup_append.1 hrest).1
      rw [hsplit, List.map_append, List.map_cons, List.nodup_append] at hkeys
      refine List.lookup_eq_some_iff.2 ⟨before, after, hsplit, fun x hx => ?_⟩
      have := hkeys.2.2 _ (List.mem_map.2 ⟨x, hx, rfl⟩) _ List.mem_cons_self
      simpa using this.symm
    have hnone : ∀ x ∈ front.zipIdx 1, (x.1.forwards.lookup socket).map
        (fun f => (x.2, x.1, f)) = none := by
      rintro ⟨s', j⟩ hx
      rw [Option.map_eq_none_iff, List.lookup_eq_none_iff]
      intro y hy
      have hmem : s' ∈ front := by
        obtain ⟨-, hget⟩ := List.mem_zipIdx_iff_le_and_getElem?_sub.1 hx
        exact List.mem_of_getElem? hget
      have := hfront _ (List.mem_flatMap.2 ⟨s', hmem, List.mem_map.2 ⟨y, hy, rfl⟩⟩) socket
        (List.mem_append_left _ (List.mem_map.2 ⟨_, hf, rfl⟩))
      simpa using this.symm
    unfold Network.forwardOf?
    rw [heq, List.zipIdx_append, List.findSome?_append, List.findSome?_eq_none_iff.2 hnone,
      List.zipIdx_cons, List.findSome?_cons_of_isSome]
    · simp [hown, hi]
      omega
    · simp [hown]

end Placed

end Use

end Tether.Direct
