import Mathlib
import Tether.Agent.Config
import Tether.Config.Settings
import Tether.Proofs.Direct.Sockets
import Tether.Proofs.Net.Dialing
import Tether.Relay.Handler

/-!
Where the relay dials because of a connection on a forward. It dials the name of this host with the
overlay port of the forward, and so it reaches a forward of the same session just when one is bound
on that port: nothing keeps a configuration from that. Then the dial is a connection on a forward
again, and is relayed again. The relays that one connection causes in this way are a chain
(`Network.chain`); it comes to an end unless some endpoint is dialed twice
(`Network.endless_iff_repeats`). `Use.relay_dials_forward_iff` says all this of every use of the
backend, and a forward from a port to itself, which the settings accept, is relayed for ever
(`Use.relay_dials_itself`).
-/

namespace Tether.Direct

open Tether.Net Tether.Overlay Tether.Relay Tether.Disk

namespace Network

variable {n : Network Record} {host : String}

/-- Where the relay dials because of a connection, if a forward takes it. -/
def dials? (n : Network Record) (source target : Endpoint) : Option Endpoint :=
  match n.arrive source target with
  | .offered _ (.intercept r) => (resolve r.target).toOption
  | _ => none

/-- What is dialed in a row because of a connection that aims at an endpoint, with the sources that
the connections show. -/
def chain (n : Network Record) (sources : Nat → Endpoint) (target : Endpoint) :
    Nat → Option Endpoint
  | 0 => some target
  | k + 1 => (chain n sources target k).bind (n.dials? (sources k))

/-- A connection causes one relay after another without an end. -/
def Endless (n : Network Record) (sources : Nat → Endpoint) (target : Endpoint) : Prop :=
  ∀ k, (n.chain sources target k).isSome

/-- The relay dials the port where the connection is taken to aim, whatever its source. -/
theorem dials?_eq (h : n.HasFallback (route host)) (source target : Endpoint) :
    n.dials? source target =
      (n.aim? target).bind fun dst => (resolve (targetFor host dst)).toOption := by
  unfold dials?
  obtain ⟨id, dst, hd, ha⟩ | ⟨hd, hn⟩ := n.arrive_of_hasFallback h source target
  · rw [ha, hd]
    rfl
  · rw [hd]
    split
    · rename_i ha
      exact absurd ha (hn _ _)
    · rfl

theorem chain_congr (h : n.HasFallback (route host)) (sources : Nat → Endpoint) (target : Endpoint)
    {i j : Nat} (hij : n.chain sources target i = n.chain sources target j) (k : Nat) :
    n.chain sources target (i + k) = n.chain sources target (j + k) := by
  induction k with
  | zero => exact hij
  | succ k ih =>
    rw [← Nat.add_assoc, ← Nat.add_assoc, chain, chain, ih]
    refine Option.bind_congr fun e _ => ?_
    rw [dials?_eq h, dials?_eq h]

theorem chain_isSome_of_le {sources : Nat → Endpoint} {target : Endpoint} {i j : Nat} (hij : i ≤ j)
    (h : (n.chain sources target j).isSome) : (n.chain sources target i).isSome := by
  induction j with
  | zero =>
    obtain rfl : i = 0 := by omega
    exact h
  | succ j ih =>
    obtain rfl | hlt := Nat.eq_or_lt_of_le hij
    · exact h
    · refine ih (by omega) ?_
      rw [chain] at h
      exact Option.isSome_of_isSome_bind h

/-- A chain that comes back goes round for ever. -/
theorem endless_of_repeats (h : n.HasFallback (route host)) {sources : Nat → Endpoint}
    {target : Endpoint} {i j : Nat} (hij : i < j)
    (heq : n.chain sources target i = n.chain sources target j)
    (hs : (n.chain sources target j).isSome) : n.Endless sources target := by
  -- after any number of rounds the chain has not ended
  have hround (m : Nat) : (n.chain sources target (i + m * (j - i))).isSome := by
    induction m with
    | zero =>
      rw [Nat.zero_mul, Nat.add_zero, heq]
      exact hs
    | succ m ih =>
      have hj : i + (m + 1) * (j - i) = j + m * (j - i) := by
        rw [Nat.succ_mul]
        omega
      rw [hj, ← n.chain_congr h sources target heq]
      exact ih
  intro k
  refine chain_isSome_of_le ?_ (hround k)
  have hpos : 1 ≤ j - i := by omega
  have hle : k * 1 ≤ k * (j - i) := Nat.mul_le_mul_left k hpos
  omega

/-- A connection causes relays without an end just when an endpoint is dialed twice. -/
theorem endless_iff_repeats (h : n.HasFallback (route Agent.defaultTargetHost))
    (sources : Nat → Endpoint) (target : Endpoint) :
    n.Endless sources target ↔ ∃ i j, i < j ∧
      n.chain sources target i = n.chain sources target j ∧
        (n.chain sources target j).isSome := by
  constructor
  · intro hend
    -- every dial goes to a port of this host, and there are only so many of them
    have hport (k : Nat) : ∃ port, n.chain sources target (k + 1) = some ⟨.v4 .loopback, port⟩ := by
      obtain ⟨e, he⟩ := Option.isSome_iff_exists.1 (hend (k + 1))
      rw [chain] at he ⊢
      obtain ⟨t, ht, hd⟩ := Option.bind_eq_some_iff.1 he
      rw [dials?_eq h] at hd
      obtain ⟨dst, -, hr⟩ := Option.bind_eq_some_iff.1 hd
      have hr' : resolve (targetFor Agent.defaultTargetHost dst) = .ok ⟨.v4 .loopback, dst.port⟩ :=
        resolve_localhost dst.port
      refine ⟨dst.port, ?_⟩
      rw [he]
      rw [hr'] at hr
      exact hr.symm
    choose port hport using hport
    obtain ⟨i, j, hne, heq⟩ := Finite.exists_ne_map_eq_of_infinite port
    have hdial : n.chain sources target (i + 1) = n.chain sources target (j + 1) := by
      rw [hport, hport, heq]
    rcases Nat.lt_or_gt_of_ne hne with hlt | hlt
    · exact ⟨i + 1, j + 1, by omega, hdial, hend _⟩
    · exact ⟨j + 1, i + 1, by omega, hdial.symm, hend _⟩
  · rintro ⟨i, j, hij, heq, hs⟩
    exact endless_of_repeats h hij heq hs

end Network

/-! ## The backend at work -/

namespace Use

/-- The loopback address at a port. -/
def loopbackAt (port : UInt16) : Endpoint := ⟨.v4 .loopback, port⟩

/-- What a connection on a forward of a session leads to. -/
structure Leads (config : Config) (n : Network Record) (id : Nat) (s : Session Record) (f : Forward)
    (e : Endpoint) : Prop where
  /-- The relay takes the connection and dials the port where it is taken to aim. -/
  relayed : ∀ source, ∃ r, n.arrive source e = .offered id (.intercept r) ∧
    resolve r.target = .ok (loopbackAt f.overlay)
  dials : ∀ source, n.dials? source e = some (loopbackAt f.overlay)
  /-- It dials a socket of the session just when a forward of that is bound on the port. -/
  own : (∃ x ∈ s.forwards, n.socketAt? (loopbackAt f.overlay) = some x.1) ↔
    ∃ x ∈ s.forwards, (x.1, loopbackAt f.overlay) ∈ n.host.sockets
  /-- Unless ports are left open, the configuration decides about that. -/
  configured : (∀ g ∈ config.forwards, g.listen ≠ 0) →
    ((∃ x ∈ s.forwards, n.socketAt? (loopbackAt f.overlay) = some x.1) ↔
      ∃ g ∈ config.forwards, g.listen = f.overlay)
  /-- If no forward of any session is bound on the port, there is no second relay. -/
  once : (∀ s' ∈ n.sessions, ∀ x ∈ s'.forwards, (x.1, loopbackAt f.overlay) ∉ n.host.sockets) →
    ∀ source, n.dials? source (loopbackAt f.overlay) = none
  /-- Relays follow each other without an end just when an endpoint is dialed twice. -/
  endless : ∀ sources, n.Endless sources e ↔ ∃ i j, i < j ∧
    n.chain sources e i = n.chain sources e j ∧ (n.chain sources e j).isSome

variable {config : Config} {u : Use Record}

theorem hasFallback_run {Service : Type} {fallback : Endpoint → Endpoint → Routing Service}
    {u : Use Service} (h : u.network.HasFallback fallback) (ops : List Op) :
    (u.run fallback ops).network.HasFallback fallback := by
  induction ops generalizing u with
  | nil => exact h
  | cons op ops ih => exact ih (hasFallback_perform h op)

namespace Placed

/-- A socket of this session is reached at a port just when one of its forwards is bound there. -/
theorem reached_iff (h : Placed config u) (hip : config.bindHost = .v4 .loopback)
    {s : Session Record} (hs : s ∈ u.network.sessions) (port : UInt16) :
    (∃ x ∈ s.forwards, u.network.socketAt? (loopbackAt port) = some x.1) ↔
      ∃ x ∈ s.forwards, (x.1, loopbackAt port) ∈ u.network.host.sockets := by
  refine exists_congr fun x => and_congr_right fun hx => ?_
  obtain ⟨p, hm, -⟩ := (h.binds s hs).bound x hx
  rw [hip] at hm
  rw [Network.socketAt?_iff h.host]
  constructor
  · rintro ⟨e, he, hport, -⟩
    -- the socket has one endpoint only, and that is at the loopback address
    have heq := h.host.eq_of_fst he hm
    subst heq
    have hp : p = port := hport
    rwa [hp] at hm
  · intro he
    exact ⟨_, he, rfl, .inl rfl⟩

/-- A connection on a forward comes before the relay, which dials the port it is taken to aim at. -/
theorem relayed (h : Placed config u) (hfb : u.network.HasFallback (route Agent.defaultTargetHost))
    {id socket : Nat} {s : Session Record} {f : Forward} {e : Endpoint}
    (hs : u.network.session? id = some s) (hreg : s.fallback.isSome)
    (hf : (socket, f) ∈ s.forwards) (he : (socket, e) ∈ u.network.host.sockets)
    (source : Endpoint) :
    ∃ r, u.network.arrive source e = .offered id (.intercept r) ∧
      resolve r.target = .ok (loopbackAt f.overlay) := by
  have hat : u.network.socketAt? e = some socket :=
    (Network.socketAt?_iff h.host).2 ⟨e, he, rfl, .inl rfl⟩
  obtain ⟨g, hg⟩ := Option.isSome_iff_exists.1 hreg
  have hroute := hfb s (Network.mem_sessions_of_session? hs) g hg
  subst hroute
  refine ⟨⟨source, s.destination f, targetFor Agent.defaultTargetHost (s.destination f)⟩, ?_,
    resolve_localhost f.overlay⟩
  unfold Network.arrive
  rw [hat]
  dsimp only
  rw [h.forwardOf?_eq hs hf]
  dsimp only
  rw [hg]
  rfl

/-- Where no forward is bound, no relay follows. -/
theorem dials?_eq_none (h : Placed config u) (hip : config.bindHost = .v4 .loopback)
    (hfb : u.network.HasFallback (route Agent.defaultTargetHost)) {port : UInt16}
    (hn : ∀ s ∈ u.network.sessions, ∀ x ∈ s.forwards,
      (x.1, loopbackAt port) ∉ u.network.host.sockets) (source : Endpoint) :
    u.network.dials? source (loopbackAt port) = none := by
  rw [Network.dials?_eq hfb]
  suffices hd : u.network.aim? (loopbackAt port) = none by
    rw [hd]
    rfl
  unfold Network.aim?
  split
  · rfl
  · rename_i socket hat
    split
    · rfl
    · rename_i id s f hfor
      obtain ⟨hs, hf⟩ := Network.forwardOf?_mem hfor
      have hs := Network.mem_sessions_of_session? hs
      obtain ⟨x, hx, hm⟩ := (h.reached_iff hip hs port).1 ⟨_, hf, hat⟩
      exact absurd hm (hn s hs x hx)

theorem leads (h : Placed config u) (hip : config.bindHost = .v4 .loopback)
    (hfb : u.network.HasFallback (route Agent.defaultTargetHost)) {id socket : Nat}
    {s : Session Record} {f : Forward} {e : Endpoint} (hs : u.network.session? id = some s)
    (hreg : s.fallback.isSome) (hf : (socket, f) ∈ s.forwards)
    (he : (socket, e) ∈ u.network.host.sockets) : Leads config u.network id s f e := by
  have hmem := Network.mem_sessions_of_session? hs
  have hown := h.reached_iff hip hmem f.overlay
  refine ⟨h.relayed hfb hs hreg hf he, ?_, hown, ?_, h.dials?_eq_none hip hfb,
    fun sources => Network.endless_iff_repeats hfb sources e⟩
  · intro source
    obtain ⟨r, ha, hr⟩ := h.relayed hfb hs hreg hf he source
    unfold Network.dials?
    rw [ha]
    dsimp only
    rw [hr]
    rfl
  · intro hopen
    have hall : s.forwards.map Prod.snd = config.forwards := by
      rcases (h.binds s hmem).forwards with hnil | hall
      · rw [hnil] at hf
        exact absurd hf List.not_mem_nil
      · exact hall
    rw [hown]
    constructor
    · rintro ⟨x, hx, hm⟩
      have hg : x.2 ∈ config.forwards := hall ▸ List.mem_map.2 ⟨x, hx, rfl⟩
      obtain ⟨p, hp, hlisten⟩ := (h.binds s hmem).bound x hx
      have hport := congrArg Endpoint.port (h.host.eq_of_fst hp hm)
      exact ⟨x.2, hg, (hlisten (hopen _ hg)).symm.trans hport⟩
    · rintro ⟨g, hg, hport⟩
      have hg' := hg
      rw [← hall] at hg'
      obtain ⟨x, hx, rfl⟩ := List.mem_map.1 hg'
      obtain ⟨p, hp, hlisten⟩ := (h.binds s hmem).bound x hx
      rw [hip, hlisten (hopen _ hg), hport] at hp
      exact ⟨x, hx, hp⟩

/-- Where every forward of some leads to another one of them, relays follow each other without an
end. -/
theorem endless_of_closed (h : Placed config u) (hip : config.bindHost = .v4 .loopback)
    (hfb : u.network.HasFallback (route Agent.defaultTargetHost)) {P : Nat × Forward → Prop}
    (hP : ∀ x, P x → ∃ id s, u.network.session? id = some s ∧ s.fallback.isSome ∧ x ∈ s.forwards)
    (hnext : ∀ x, P x → ∃ y, P y ∧ (y.1, loopbackAt x.2.overlay) ∈ u.network.host.sockets)
    {x : Nat × Forward} (hx : P x) {e : Endpoint} (he : (x.1, e) ∈ u.network.host.sockets)
    (sources : Nat → Endpoint) : u.network.Endless sources e := by
  -- after any number of relays the last dial has reached one of these forwards
  have hreach (k : Nat) : ∃ y e', P y ∧ (y.1, e') ∈ u.network.host.sockets ∧
      u.network.chain sources e k = some e' := by
    induction k with
    | zero => exact ⟨x, e, hx, he, rfl⟩
    | succ k ih =>
      obtain ⟨y, e', hy, he', hk⟩ := ih
      obtain ⟨id, s, hs, hreg, hf⟩ := hP y hy
      obtain ⟨z, hz, hm⟩ := hnext y hy
      refine ⟨z, _, hz, hm, ?_⟩
      rw [Network.chain, hk]
      exact (h.leads hip hfb hs hreg hf he').dials _
  intro k
  obtain ⟨y, e', -, -, hk⟩ := hreach k
  rw [hk]
  rfl

end Placed

/-- Whatever use is made of the backend on the loopback address, a connection on a forward is
relayed to the overlay port of that forward on this host. That is a socket of the same session just
when one of its forwards is bound there. -/
theorem relay_dials_forward_iff (config : Config) (hip : config.bindHost = .v4 .loopback)
    {h : Host} (hs : h.Sound) (tree : Tree) (ops : List Op) :
    let n := ((fresh config h tree).run (route Agent.defaultTargetHost) ops).network
    ∀ id s socket f e, n.session? id = some s → s.fallback.isSome → (socket, f) ∈ s.forwards →
      (socket, e) ∈ n.host.sockets → Leads config n id s f e := by
  intro n id s socket f e hid hreg hf he
  have hp : Placed config ((fresh config h tree).run (route Agent.defaultTargetHost) ops) :=
    (Placed.fresh config hs tree).run ops
  have hfb : n.HasFallback (route Agent.defaultTargetHost) :=
    hasFallback_run (fun _ hx => absurd hx List.not_mem_nil) ops
  exact hp.leads hip hfb hid hreg hf he

/-! ## A forward from a port to itself -/

/-- Arguments that ask for a forward from port 8080 to port 8080. -/
def selfArgs : Tether.Config.Args := {
  controlUrl := some "https://control.example.com"
  apiUrl := some "https://api.example.com"
  apiKey := some "secret"
  hostname := some "h"
  clientId := some "c"
  forwards := [⟨8080, 8080⟩] }

/-- The configuration that these arguments make. -/
def selfConfig : Config := ⟨.v4 .loopback, [⟨8080, 8080⟩]⟩

/-- What a session is started with. -/
def selfOptions : Options := ⟨"h", "https://control.example.com", true, "", "key"⟩

/-- A session is started, and the relay is its fallback. -/
def selfUse : Use Record :=
  (fresh selfConfig {} {}).run (route Agent.defaultTargetHost) [.start selfOptions, .register 1]

theorem makeAll_empty : ({} : Tree).makeAll "" = ({}, .ok ()) := by cbv

theorem selfUse_session : ∃ s, selfUse.network.session? 1 = some s ∧ s.fallback.isSome ∧
    (0, ⟨8080, 8080⟩) ∈ s.forwards ∧ (0, loopbackAt 8080) ∈ selfUse.network.host.sockets := by
  have h : selfUse.network = {
      config := selfConfig
      host := { sockets := [(0, loopbackAt 8080)], next := 1 }
      sessions := [⟨"h", "https://control.example.com", .v4 .loopback, false,
        some (route Agent.defaultTargetHost), [(0, ⟨8080, 8080⟩)]⟩]
      log := [startEntry selfConfig selfOptions] } := by
    simp [selfUse, run, fresh, perform, Network.start, selfOptions, selfConfig, makeAll_empty,
      bindForwards, Host.bind, Host.bindAt, Host.isFree, loopbackAt,
      Network.registerFallback, Network.modifySession]
  rw [h]
  exact ⟨_, rfl, rfl, List.mem_cons_self, List.mem_cons_self⟩

/-- The relay for a connection on port 8080 dials port 8080, and does so for ever. -/
theorem relay_dials_forward_iff_self : selfConfig.bindHost = .v4 .loopback ∧ Host.Sound {} ∧
    ∃ s, (0, ⟨8080, 8080⟩) ∈ s.forwards ∧
      Leads selfConfig selfUse.network 1 s ⟨8080, 8080⟩ (loopbackAt 8080) := by
  obtain ⟨s, hs, hreg, hf, he⟩ := selfUse_session
  refine ⟨rfl, Host.sound_empty, s, hf, ?_⟩
  exact relay_dials_forward_iff selfConfig rfl Host.sound_empty {}
    [.start selfOptions, .register 1] 1 s 0 ⟨8080, 8080⟩ (loopbackAt 8080) hs hreg hf he

/-- The settings accept a forward from a port to itself, and the session starts. The relay for a
connection on the forward dials the socket of the forward, and one connection is relayed for
ever. -/
theorem relay_dials_itself :
    (Tether.Config.Settings.build {} ⟨0, 0, 0⟩ selfArgs {}).toOption.map (·.direct) =
        some selfConfig ∧
      ∃ s, selfUse.network.session? 1 = some s ∧ (0, ⟨8080, 8080⟩) ∈ s.forwards ∧
        (∀ source, selfUse.network.dials? source (loopbackAt 8080) = some (loopbackAt 8080)) ∧
        selfUse.network.socketAt? (loopbackAt 8080) = some 0 ∧
        ∀ sources, selfUse.network.Endless sources (loopbackAt 8080) := by
  obtain ⟨s, hs, hreg, hf, he⟩ := selfUse_session
  have hp : Placed selfConfig selfUse := (Placed.fresh selfConfig Host.sound_empty {}).run _
  have hfb : selfUse.network.HasFallback (route Agent.defaultTargetHost) :=
    hasFallback_run (fun _ hx => absurd hx List.not_mem_nil) _
  have hleads := hp.leads rfl hfb hs hreg hf he
  refine ⟨by decide +kernel, s, hs, hf, hleads.dials, ?_, fun sources => ?_⟩
  · exact (Network.socketAt?_iff hp.host).2 ⟨_, he, rfl, .inl rfl⟩
  · refine hp.endless_of_closed rfl hfb (P := (· = (0, ⟨8080, 8080⟩))) ?_ ?_ rfl he sources
    · rintro x rfl
      exact ⟨1, s, hs, hreg, hf⟩
    · rintro x rfl
      exact ⟨_, rfl, he⟩

end Use

end Tether.Direct
