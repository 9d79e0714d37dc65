import Mathlib
import Tether.Direct.Startup
import Tether.Proofs.Direct.Sockets

/-!
A start that is all or nothing. The call binds the forwards one after another, and the loops of
those that are bound already run beside it. While the call is under way and when it returned well
no loop ends, so the sockets are those that were bound; when it failed no loop ends otherwise than
by seeing that the session is closed, and then its socket goes (`Startup.Traces`). Each move of the
runtime leaves it fewer of them (`Startup.left_lt_of_step`), so everything settles, and then every
port is bound in addition or none is: `Network.start_all_or_nothing`.
-/

namespace Tether.Net.Host

variable {h h' : Host} {ip : Ip} {port : UInt16} {id : Nat}

/-! ## Ports -/

theorem clashes_same_ip (ip : Ip) (p q : UInt16) :
    Endpoint.clashes ⟨ip, p⟩ ⟨ip, q⟩ = decide (p = q) := by
  simp [Endpoint.clashes, beq_eq_decide]

/-- The host with one socket more. -/
def grown (h : Host) (e : Endpoint) : Host :=
  { h with sockets := (h.next, e) :: h.sockets, next := h.next + 1 }

theorem isFree_grown (h : Host) (x e : Endpoint) :
    (h.grown x).isFree e = (!x.clashes e && h.isFree e) := rfl

/-- A port that is named can be bound at an address of the host unless it is bound there already. -/
theorem bind_isOk_iff (ha : h.own ip = true) (hp : port ≠ 0) :
    (h.bind ip port).isOk = true ↔ h.isFree ⟨ip, port⟩ = true := by
  unfold bind bindAt
  rw [if_pos hp]
  by_cases hf : h.isFree ⟨ip, port⟩ = true
  · simp [ha, hf, Except.isOk, Except.toBool]
  · simp [ha, hf, Except.isOk, Except.toBool]

end Tether.Net.Host

namespace Tether.Direct

open Tether.Net Tether.Overlay

variable {ip : Ip} {h h' : Host} {fs : List Forward} {bound : List (Nat × Forward)}

/-- An endpoint is at the port that a forward names, if it names one. -/
def Forward.IsAt (ip : Ip) (f : Forward) (e : Endpoint) : Prop :=
  e.ip = ip ∧ (f.listen ≠ 0 → e.port = f.listen)

theorem bindForwards_cons_ok {f : Forward}
    (hb : bindForwards ip h (f :: fs) = .ok (h', bound)) :
    ∃ p rest, (f.listen ≠ 0 → p = f.listen) ∧ h.isFree ⟨ip, p⟩ = true ∧
      h.bind ip f.listen = .ok (h.grown ⟨ip, p⟩, h.next) ∧
      bindForwards ip (h.grown ⟨ip, p⟩) fs = .ok (h', rest) ∧ bound = (h.next, f) :: rest := by
  rw [bindForwards] at hb
  cases hf : h.bind ip f.listen with
  | error fault =>
    rw [hf] at hb
    cases hb
  | ok r =>
    obtain ⟨h₁, id⟩ := r
    rw [hf] at hb
    dsimp only at hb
    cases hrest : bindForwards ip h₁ fs with
    | error e =>
      rw [hrest] at hb
      cases hb
    | ok r =>
      rw [hrest] at hb
      cases hb
      obtain ⟨rfl, p, hp, hfree, rfl⟩ := Host.bind_ok hf
      exact ⟨p, r.2, hp, hfree, rfl, hrest, rfl⟩

theorem bindForwards_append {front : List Forward}
    (hb : bindForwards ip h front = .ok (h', bound)) (back : List Forward) :
    bindForwards ip h (front ++ back) =
      (bindForwards ip h' back).map fun r => (r.1, bound ++ r.2) := by
  induction front generalizing h bound with
  | nil =>
    cases hb
    rw [List.nil_append]
    cases hback : bindForwards ip h' back <;> rfl
  | cons f front ih =>
    obtain ⟨p, rest, -, -, hf, hrest, rfl⟩ := bindForwards_cons_ok hb
    rw [List.cons_append, bindForwards, hf]
    dsimp only
    rw [ih hrest]
    cases bindForwards ip h' back <;> rfl

theorem bindForwards_refused {front : List Forward} {f : Forward} {fault : Fault}
    (hb : bindForwards ip h front = .ok (h', bound)) (hf : h'.bind ip f.listen = .error fault)
    (back : List Forward) :
    bindForwards ip h (front ++ f :: back) = .error (f.listen, fault) := by
  rw [bindForwards_append hb, bindForwards, hf]
  rfl

/-- Each forward that is bound gets a socket of a new number at the port that it names. -/
theorem bindForwards_gains (hb : bindForwards ip h fs = .ok (h', bound)) :
    ∃ gained : List (Nat × Endpoint), gained.map Prod.fst = bound.map Prod.fst ∧
      List.Forall₂ (fun f x => f.IsAt ip x.2) fs gained ∧ (∀ x ∈ gained, h.next ≤ x.1) ∧
      h'.sockets = gained.reverse ++ h.sockets := by
  induction fs generalizing h bound with
  | nil =>
    cases hb
    exact ⟨[], rfl, .nil, nofun, rfl⟩
  | cons f fs ih =>
    obtain ⟨p, rest, hp, -, -, hrest, rfl⟩ := bindForwards_cons_ok hb
    obtain ⟨gained, hfst, hat, hnew, hsockets⟩ := ih hrest
    refine ⟨(h.next, ⟨ip, p⟩) :: gained, ?_, .cons ⟨rfl, hp⟩ hat, ?_, ?_⟩
    · rw [List.map_cons, List.map_cons, hfst]
    · rw [List.forall_mem_cons]
      exact ⟨Nat.le_refl _, fun x hx => Nat.le_of_succ_le (hnew x hx)⟩
    · rw [hsockets, List.reverse_cons, List.append_assoc]
      rfl

/-- A port that is named was free, if all can be bound. -/
theorem isFree_of_bindForwards (hb : bindForwards ip h fs = .ok (h', bound)) :
    ∀ f ∈ fs, f.listen ≠ 0 → h.isFree ⟨ip, f.listen⟩ = true := by
  induction fs generalizing h bound with
  | nil => nofun
  | cons f fs ih =>
    obtain ⟨p, rest, hp, hfree, -, hrest, rfl⟩ := bindForwards_cons_ok hb
    intro g hg hn
    obtain rfl | hg := List.mem_cons.1 hg
    · rw [← hp hn]
      exact hfree
    · have hlater := ih hrest g hg hn
      rw [Host.isFree_grown, Bool.and_eq_true] at hlater
      exact hlater.2

/-- A port that is named twice cannot be bound twice. -/
theorem nodup_of_bindForwards (hb : bindForwards ip h fs = .ok (h', bound)) :
    ((fs.map Forward.listen).filter (· ≠ 0)).Nodup := by
  induction fs generalizing h bound with
  | nil => exact .nil
  | cons f fs ih =>
    obtain ⟨p, rest, hp, -, -, hrest, rfl⟩ := bindForwards_cons_ok hb
    rw [List.map_cons]
    by_cases hz : f.listen = 0
    · rw [List.filter_cons_of_neg (by simp [hz])]
      exact ih hrest
    · rw [List.filter_cons_of_pos (by simp [hz]), List.nodup_cons]
      refine ⟨?_, ih hrest⟩
      intro hmem
      obtain ⟨hmem, -⟩ := List.mem_filter.1 hmem
      obtain ⟨g, hg, he⟩ := List.mem_map.1 hmem
      have hfree := isFree_of_bindForwards hrest g hg (he ▸ hz)
      rw [Host.isFree_grown, he, hp hz, Host.clashes_same_ip] at hfree
      simp at hfree

/-- Named ports can all be bound just when they are different and free. -/
theorem bindForwards_isOk_iff (ha : h.own ip = true) (hn : ∀ f ∈ fs, f.listen ≠ 0) :
    (bindForwards ip h fs).isOk = true ↔
      (fs.map Forward.listen).Nodup ∧ ∀ f ∈ fs, h.isFree ⟨ip, f.listen⟩ = true := by
  constructor
  · intro hok
    cases hb : bindForwards ip h fs with
    | error e =>
      rw [hb] at hok
      cases hok
    | ok r =>
      refine ⟨?_, fun f hf => isFree_of_bindForwards hb f hf (hn f hf)⟩
      have hnodup := nodup_of_bindForwards hb
      rwa [List.filter_eq_self.2] at hnodup
      intro p hp
      obtain ⟨f, hf, rfl⟩ := List.mem_map.1 hp
      simpa using hn f hf
  · rintro ⟨hnodup, hfree⟩
    induction fs generalizing h with
    | nil => rfl
    | cons f fs ih =>
      rw [List.forall_mem_cons] at hn hfree
      rw [List.map_cons, List.nodup_cons] at hnodup
      have hbind := (Host.bind_isOk_iff ha hn.1).2 hfree.1
      cases hf : h.bind ip f.listen with
      | error fault =>
        rw [hf] at hbind
        cases hbind
      | ok r =>
        obtain ⟨h₁, id⟩ := r
        obtain ⟨rfl, p, hp, -, he⟩ := Host.bind_ok hf
        have hrest : (bindForwards ip h₁ fs).isOk = true := by
          refine ih ?_ hn.2 hnodup.2 ?_
          · rw [he]
            exact ha
          intro g hg
          have hne : f.listen ≠ g.listen := by
            intro heq
            exact hnodup.1 (List.mem_map.2 ⟨g, hg, heq.symm⟩)
          rw [he, ← Host.grown, Host.isFree_grown, hp hn.1, Host.clashes_same_ip]
          simp [hne, hfree.2 g hg]
        rw [bindForwards, hf]
        dsimp only
        cases hb : bindForwards ip h₁ fs with
        | error e =>
          rw [hb] at hrest
          cases hrest
        | ok r => rfl

/-! ## Steps of a loop -/

/-- How many steps a loop can still take by itself if nothing arrives. -/
def Watch.left : Watch → Nat
  | .spawned | .pausing => 2
  | .watching => 1
  | .gone => 0

/-- How many steps a loop can still take by itself; a fault that arrived costs it a pause. -/
def ForwardLoop.left (l : ForwardLoop) : Nat := 2 * l.arrived.length + l.watch.left

/-- What a loop does that takes a step. -/
structure ForwardLoop.Takes (l l' : ForwardLoop) (closed hasAddress : Bool) : Prop where
  socket : l'.socket = l.socket
  forward : l'.forward = l.forward
  live : l.watch ≠ .gone
  /-- It ends only when the session is closed, or when its socket has no address. -/
  ends : l'.watch = .gone → closed = true ∨ hasAddress = false
  left : l'.left < l.left

theorem ForwardLoop.takes_of_step {l l' : ForwardLoop} {closed hasAddress : Bool} {m : LoopStep}
    {source? : Option Endpoint} (hs : l.step closed hasAddress m = some (l', source?)) :
    l.Takes l' closed hasAddress := by
  obtain ⟨socket, forward, watch, arrived⟩ := l
  cases m with
  | begin =>
    simp only [step, Option.ite_none_right_eq_some, Option.some.injEq, Prod.mk.injEq] at hs
    obtain ⟨rfl, rfl, rfl⟩ := hs
    cases hasAddress with
    | true => exact ⟨rfl, rfl, nofun, nofun, Nat.lt_succ_self _⟩
    | false => exact ⟨rfl, rfl, nofun, fun _ => .inr rfl, Nat.lt_add_of_pos_right (Nat.zero_lt_two)⟩
  | accept =>
    simp only [step] at hs
    split at hs
    · cases hs
      refine ⟨rfl, rfl, nofun, nofun, ?_⟩
      simp [left]
    · cases hs
      refine ⟨rfl, rfl, nofun, nofun, ?_⟩
      simp [left, Watch.left]
      omega
    · cases hs
  | resume =>
    simp only [step, Option.ite_none_right_eq_some, Option.some.injEq, Prod.mk.injEq] at hs
    obtain ⟨rfl, rfl, rfl⟩ := hs
    exact ⟨rfl, rfl, nofun, nofun, Nat.lt_succ_self _⟩
  | stop =>
    simp only [step, Option.ite_none_right_eq_some, Option.some.injEq, Prod.mk.injEq] at hs
    obtain ⟨⟨rfl, rfl⟩, rfl, rfl⟩ := hs
    exact ⟨rfl, rfl, nofun, fun _ => .inl rfl, Nat.lt_succ_self _⟩

/-- A loop can take no step by itself if it is over, or waits in vain. -/
theorem ForwardLoop.idle_iff (l : ForwardLoop) (closed hasAddress : Bool) :
    (∀ m, l.step closed hasAddress m = none) ↔
      l.watch = .gone ∨ (l.watch = .watching ∧ l.arrived = [] ∧ closed = false) := by
  obtain ⟨socket, forward, watch, arrived⟩ := l
  constructor
  · intro hidle
    cases watch with
    | spawned => exact absurd (hidle .begin) (by simp [step])
    | pausing => exact absurd (hidle .resume) (by simp [step])
    | gone => exact .inl rfl
    | watching =>
      have hopen : closed = false := by simpa [step] using hidle .stop
      have haccept := hidle .accept
      cases arrived with
      | nil => exact .inr ⟨rfl, rfl, hopen⟩
      | cons r rest => cases r <;> cases haccept
  · rintro (rfl | ⟨rfl, rfl, rfl⟩) m
    · cases m <;> simp [step]
    · cases m <;> simp [step]

namespace Startup

variable {Service : Type} {s s' : Startup Service} {config : Config} {h₀ : Host}

/-- What a move does that can be made. -/
inductive Makes (s : Startup Service) : Move Service → Startup Service → Prop
  | call : s.outcome = none → Makes s .call s.call
  | loop {i : Nat} {m : LoopStep} {l l' : ForwardLoop} {source? : Option Endpoint} :
      s.loops[i]? = some l →
      l.step s.closed (s.host.socket? l.socket).isSome m = some (l', source?) →
      Makes s (.loop i m) { s with
        loops := s.loops.set i l'
        host := if l'.watch = .gone then s.host.release l.socket else s.host
        offers := s.offers ++ (source?.map (s.offer l.forward)).getD [] }
  | arrive {i : Nat} {l : ForwardLoop} {result : Except Fault Endpoint} :
      s.loops[i]? = some l → l.watch ≠ .gone → Makes s (.arrive i result)
        { s with loops := s.loops.set i { l with arrived := l.arrived ++ [result] } }
  | register {fallback : Endpoint → Endpoint → Routing Service} : s.outcome = some (.ok ()) →
      Makes s (.register fallback) { s with fallback := some fallback }

theorem makes_of_step {m : Move Service} (hm : s.step m = some s') : s.Makes m s' := by
  cases m with
  | call =>
    simp only [step, Option.ite_none_right_eq_some, Option.isNone_iff_eq_none] at hm
    obtain ⟨hout, hm⟩ := hm
    cases hm
    exact .call hout
  | loop i m =>
    simp only [step] at hm
    split at hm
    · cases hm
    · rename_i l hl
      split at hm
      · cases hm
      · rename_i l' source? hstep
        cases hm
        exact .loop hl hstep
  | arrive i result =>
    simp only [step] at hm
    split at hm
    · cases hm
    · rename_i l hl
      split at hm
      · cases hm
      · rename_i hlive
        cases hm
        exact .arrive hl hlive
  | register fallback =>
    simp only [step] at hm
    split at hm
    · rename_i hout
      cases hm
      exact .register hout
    · cases hm

/-! ## What holds all along -/

/-- The loop of a socket is over. -/
def isGone (loops : List ForwardLoop) (socket : Nat) : Bool :=
  loops.any fun l => decide (l.watch = .gone) && l.socket == socket

/-- Where the call stands, by the forwards that are still to be bound, whether the session is marked
as closed, and what it returned. -/
inductive CallAt (ip : Ip) (h : Host) :
    List Forward → Bool → Option (Except Overlay.Error Unit) → Prop
  | underWay {rest : List Forward} : CallAt ip h rest false none
  | done : CallAt ip h [] false (some (.ok ()))
  | failed {f : Forward} {rest : List Forward} {fault : Fault} :
      h.bind ip f.listen = .error fault →
      CallAt ip h (f :: rest) true (some (.error (.listen f.listen fault.text)))

theorem CallAt.closed {ip : Ip} {h : Host} {rest : List Forward} {closed : Bool}
    (hc : CallAt ip h rest closed none) : closed = false := by
  cases hc
  rfl

/-- A start has bound these sockets until now, each for a loop, and the host has them but for those
whose loops are over. -/
structure Traces (config : Config) (h₀ : Host) (h : Host) (bound : List (Nat × Forward))
    (s : Startup Service) : Prop where
  bindHost : s.bindHost = config.bindHost
  binds : ∃ front, config.forwards = front ++ s.rest ∧
    bindForwards config.bindHost h₀ front = .ok (h, bound)
  loops : s.loops.map (fun l => (l.socket, l.forward)) = bound
  sockets : s.host.sockets = h.sockets.filter fun x => !isGone s.loops x.1
  next : s.host.next = h.next
  own : s.host.own = h.own
  gone : ∀ l ∈ s.loops, l.watch = .gone → s.closed = true
  callAt : CallAt config.bindHost h s.rest s.closed s.outcome
  unheard : s.outcome ≠ some (.ok ()) → s.fallback = none ∧ s.offers = []

theorem isGone_set {loops : List ForwardLoop} {i : Nat} {l l' : ForwardLoop}
    (hl : loops[i]? = some l) (hlive : l.watch ≠ .gone) (hs : l'.socket = l.socket) (x : Nat) :
    isGone (loops.set i l') x =
      (isGone loops x || (decide (l'.watch = .gone) && l.socket == x)) := by
  obtain ⟨front, back, rfl, -, hmodify⟩ := exists_split hl
  rw [List.set_eq_modify, hmodify]
  simp only [isGone, List.any_append, List.any_cons, hs, hlive, decide_false, Bool.false_and,
    Bool.false_or]
  rw [Bool.or_assoc, Bool.or_comm (List.any back _)]

/-- A change of a loop that leaves its socket and forward alone. -/
theorem map_loops_set {loops : List ForwardLoop} {i : Nat} {l l' : ForwardLoop}
    (hl : loops[i]? = some l) (hs : l'.socket = l.socket) (hf : l'.forward = l.forward) :
    (loops.set i l').map (fun l => (l.socket, l.forward)) =
      loops.map fun l => (l.socket, l.forward) := by
  obtain ⟨front, back, rfl, -, hmodify⟩ := exists_split hl
  rw [List.set_eq_modify, hmodify]
  simp [hs, hf]

namespace Traces

variable {h : Host} {bound : List (Nat × Forward)}

theorem begun (config : Config) (h₀ : Host) :
    Traces config h₀ h₀ [] (Startup.begun config h₀ : Startup Service) where
  bindHost := rfl
  binds := ⟨[], rfl, rfl⟩
  loops := rfl
  sockets := by simp [Startup.begun, isGone]
  next := rfl
  own := rfl
  gone := nofun
  callAt := .underWay
  unheard _ := ⟨rfl, rfl⟩

/-- While the session is not marked as closed, no loop is over. -/
theorem isGone_eq_false (ht : Traces config h₀ h bound s) (hc : s.closed = false) (x : Nat) :
    isGone s.loops x = false := by
  unfold isGone
  rw [List.any_eq_false]
  intro l hl
  have hlive : l.watch ≠ .gone := by
    intro hgone
    rw [ht.gone l hl hgone] at hc
    cases hc
  simp [hlive]

/-- While the session is not marked as closed, the host has all the sockets. -/
theorem host_eq (ht : Traces config h₀ h bound s) (hc : s.closed = false) : s.host = h := by
  have hsockets : s.host.sockets = h.sockets := by
    rw [ht.sockets]
    simp [ht.isGone_eq_false hc]
  calc s.host
    _ = ⟨s.host.sockets, s.host.next, s.host.own⟩ := rfl
    _ = h := by rw [hsockets, ht.next, ht.own]

/-- The call goes on while no loop is over. -/
theorem call (ht : Traces config h₀ h bound s) (hout : s.outcome = none) :
    ∃ h' bound', Traces config h₀ h' bound' s.call := by
  have hopen : s.closed = false := (hout ▸ ht.callAt).closed
  have hgone := ht.isGone_eq_false hopen
  have hhost := ht.host_eq hopen
  obtain ⟨bindHost, host, rest, loops, closed, fallback, offers, outcome⟩ := s
  obtain ⟨hip, ⟨front, hfront, hbound⟩, hloops, hsockets, hnext, hown, hover, -, hunheard⟩ := ht
  dsimp only at *
  subst hip hhost hopen hout
  replace hunheard := hunheard nofun
  unfold Startup.call
  cases rest with
  | nil =>
    refine ⟨host, bound, rfl, ⟨front, hfront, hbound⟩, hloops, hsockets, hnext, hown, hover, .done,
      ?_⟩
    exact fun hne => absurd rfl hne
  | cons f rest =>
    dsimp only
    cases hf : host.bind config.bindHost f.listen with
    | error fault =>
      exact ⟨host, bound, rfl, ⟨front, hfront, hbound⟩, hloops, hsockets, hnext, hown,
        fun _ _ _ => rfl, .failed hf, fun _ => hunheard⟩
    | ok r =>
      obtain ⟨host', socket⟩ := r
      have hmore : bindForwards config.bindHost h₀ (front ++ [f]) =
          .ok (host', bound ++ [(socket, f)]) := by
        rw [bindForwards_append hbound, bindForwards, hf]
        rfl
      refine ⟨host', bound ++ [(socket, f)], rfl, ⟨front ++ [f], ?_, hmore⟩, ?_, ?_, rfl, rfl,
        ?_, .underWay, fun _ => hunheard⟩
      · rw [hfront, List.append_assoc]
        rfl
      · rw [List.map_append, hloops]
        rfl
      · have hmoreGone : ∀ x, isGone (loops ++ [⟨socket, f, .spawned, []⟩]) x = false := by
          intro x
          unfold isGone at hgone ⊢
          rw [List.any_append, hgone x]
          rfl
        simp [hmoreGone]
      · intro l hl hg
        obtain hl | hl := List.mem_append.1 hl
        · exact hover l hl hg
        · rw [List.mem_singleton.1 hl] at hg
          cases hg

/-- While the session is not marked as closed, the socket of a loop has an address. -/
theorem hasAddress (ht : Traces config h₀ h bound s) (hc : s.closed = false) {l : ForwardLoop}
    (hl : l ∈ s.loops) : (s.host.socket? l.socket).isSome = true := by
  obtain ⟨front, -, hbound⟩ := ht.binds
  obtain ⟨gained, hfst, -, -, hsockets⟩ := bindForwards_gains hbound
  have hmem : l.socket ∈ gained.map Prod.fst := by
    rw [hfst, ← ht.loops, List.map_map]
    exact List.mem_map.2 ⟨l, hl, rfl⟩
  obtain ⟨x, hx, hsocket⟩ := List.mem_map.1 hmem
  rw [ht.host_eq hc, Host.socket?, Option.isSome_iff_ne_none, hsockets]
  intro hnone
  have hout := List.lookup_eq_none_iff.1 hnone x
    (List.mem_append_left _ (List.mem_reverse.2 hx))
  simp [hsocket] at hout

/-- A loop takes a step. -/
theorem loop (ht : Traces config h₀ h bound s) {i : Nat} {l l' : ForwardLoop}
    (hl : s.loops[i]? = some l) (htakes : l.Takes l' s.closed (s.host.socket? l.socket).isSome)
    (source? : Option Endpoint) : Traces config h₀ h bound { s with
      loops := s.loops.set i l'
      host := if l'.watch = .gone then s.host.release l.socket else s.host
      offers := s.offers ++ (source?.map (s.offer l.forward)).getD [] } where
  bindHost := ht.bindHost
  binds := ht.binds
  loops := (map_loops_set hl htakes.socket htakes.forward).trans ht.loops
  sockets := by
    have hset := isGone_set hl htakes.live htakes.socket
    dsimp only
    split
    · rename_i hgone
      unfold Host.release
      simp only [ht.sockets, List.filter_filter, hset, hgone]
      apply List.filter_congr
      intro x _
      simp [Bool.and_comm, beq_eq_decide, eq_comm]
    · rename_i hlive
      rw [ht.sockets]
      simp [hset, hlive]
  next := by
    dsimp only
    split
    · exact ht.next
    · exact ht.next
  own := by
    dsimp only
    split
    · exact ht.own
    · exact ht.own
  gone k hk hgone := by
    obtain hk | rfl := List.mem_or_eq_of_mem_set hk
    · exact ht.gone k hk hgone
    · -- an address was there, unless the session is closed
      obtain hclosed | hlost := htakes.ends hgone
      · exact hclosed
      · by_contra hopen
        rw [ht.hasAddress (Bool.not_eq_true _ ▸ hopen) (List.mem_of_getElem? hl)] at hlost
        cases hlost
  callAt := ht.callAt
  unheard hne := by
    obtain ⟨hfallback, hoffers⟩ := ht.unheard hne
    refine ⟨hfallback, ?_⟩
    cases source? <;> simp [offer, hfallback, hoffers]

/-- Something arrives at a socket. -/
theorem arrive (ht : Traces config h₀ h bound s) {i : Nat} {l : ForwardLoop}
    (hl : s.loops[i]? = some l) (hlive : l.watch ≠ .gone) (result : Except Fault Endpoint) :
    Traces config h₀ h bound
      { s with loops := s.loops.set i { l with arrived := l.arrived ++ [result] } } where
  bindHost := ht.bindHost
  binds := ht.binds
  loops := by
    refine Eq.trans ?_ ht.loops
    exact map_loops_set hl rfl rfl
  sockets := by
    have hset := isGone_set hl hlive
      (show ({ l with arrived := l.arrived ++ [result] } : ForwardLoop).socket = l.socket from rfl)
    rw [ht.sockets]
    simp [hset, hlive]
  next := ht.next
  own := ht.own
  gone k hk hgone := by
    obtain hk | rfl := List.mem_or_eq_of_mem_set hk
    · exact ht.gone k hk hgone
    · exact absurd hgone hlive
  callAt := ht.callAt
  unheard := ht.unheard

theorem step (ht : Traces config h₀ h bound s) {m : Move Service}
    (hm : s.step m = some s') : ∃ h' bound', Traces config h₀ h' bound' s' := by
  cases makes_of_step hm with
  | call hout => exact ht.call hout
  | loop hl hstep => exact ⟨h, bound, ht.loop hl (ForwardLoop.takes_of_step hstep) _⟩
  | arrive hl hlive => exact ⟨h, bound, ht.arrive hl hlive _⟩
  | register hout =>
    exact ⟨h, bound, ht.bindHost, ht.binds, ht.loops, ht.sockets, ht.next, ht.own, ht.gone,
      ht.callAt, fun hne => absurd hout hne⟩

theorem run (ht : Traces config h₀ h bound s) {moves : List (Move Service)}
    (hr : s.run moves = some s') : ∃ h' bound', Traces config h₀ h' bound' s' := by
  induction moves generalizing s h bound with
  | nil =>
    cases hr
    exact ⟨h, bound, ht⟩
  | cons m moves ih =>
    obtain ⟨s₁, hm, hr⟩ := Option.bind_eq_some_iff.1 hr
    obtain ⟨h₁, bound₁, ht₁⟩ := ht.step hm
    exact ih ht₁ hr

end Traces

/-! ## Settling -/

/-- How many moves the runtime can still make by itself. -/
def left (s : Startup Service) : Nat :=
  (s.loops.map ForwardLoop.left).sum + if s.outcome.isNone then 3 * s.rest.length + 1 else 0

theorem left_call (hout : s.outcome = none) : s.call.left < s.left := by
  obtain ⟨bindHost, host, rest, loops, closed, fallback, offers, outcome⟩ := s
  dsimp only at hout
  subst hout
  unfold call
  cases rest with
  | nil => exact Nat.lt_succ_self _
  | cons f rest =>
    dsimp only
    split
    · -- a loop that was spawned begins, and sees that the session is closed
      simp only [left, List.map_append, List.sum_append, List.length_cons]
      simp [ForwardLoop.left, Watch.left]
      omega
    · simp only [left]
      simp

theorem left_lt_of_step {m : Move Service} (hm : s.step m = some s') (hown : m.isOwn = true) :
    s'.left < s.left := by
  cases makes_of_step hm with
  | call hout => exact left_call hout
  | @loop i m l l' source? hl hstep =>
    have hlt := (ForwardLoop.takes_of_step hstep).left
    obtain ⟨front, back, hloops, -, hmodify⟩ := exists_split hl
    simp only [left, List.set_eq_modify, hmodify]
    simp only [hloops, List.map_append, List.map_cons, List.sum_append, List.sum_cons]
    omega
  | arrive _ _ | register _ => cases hown

/-- However the runtime goes on by itself, it makes no more moves than are left to it. -/
theorem length_le_left {moves : List (Move Service)} (hown : ∀ m ∈ moves, m.isOwn = true)
    (hr : s.run moves = some s') : moves.length + s'.left ≤ s.left := by
  induction moves generalizing s with
  | nil =>
    cases hr
    simp
  | cons m moves ih =>
    rw [List.forall_mem_cons] at hown
    obtain ⟨s₁, hm, hr⟩ := Option.bind_eq_some_iff.1 hr
    have hstep := left_lt_of_step hm hown.1
    have hrest := ih hown.2 hr
    rw [List.length_cons]
    omega

/-- The runtime can make no move by itself. -/
def Settled (s : Startup Service) : Prop := ∀ m : Move Service, m.isOwn = true → s.step m = none

/-- When everything has settled, the call has returned, and the loops are over or wait in vain. -/
theorem settled_iff : s.Settled ↔ s.outcome ≠ none ∧
    ∀ l ∈ s.loops, l.watch = .gone ∨ (l.watch = .watching ∧ l.arrived = [] ∧ s.closed = false) := by
  constructor
  · intro hs
    refine ⟨?_, ?_⟩
    · intro hout
      have hcall := hs .call rfl
      simp [step, hout] at hcall
    · intro l hl
      obtain ⟨i, hi⟩ := List.getElem?_of_mem hl
      apply (l.idle_iff s.closed (s.host.socket? l.socket).isSome).1
      intro m
      have hloop := hs (.loop i m) rfl
      rw [Option.eq_none_iff_forall_ne_some]
      intro r hr
      simp [step, hi, hr] at hloop
  · rintro ⟨hout, hidle⟩ m hown
    cases m with
    | call => simp [step, hout]
    | loop i m =>
      simp only [step]
      split
      · rfl
      · rename_i l hl
        rw [(l.idle_iff _ _).2 (hidle l (List.mem_of_getElem? hl)) m]
    | arrive _ _ | register _ => cases hown

/-- What a start comes to. -/
inductive Ends (config : Config) (h₀ : Host) (s : Startup Service) : Prop
  /-- Every port in order could be bound, and is. -/
  | all {h : Host} {bound : List (Nat × Forward)} :
      bindForwards config.bindHost h₀ config.forwards = .ok (h, bound) →
      s.outcome = some (.ok ()) → s.host = h → Ends config h₀ s
  /-- A port could not be bound, and none is any more. -/
  | nothing {front back : List Forward} {f : Forward} {h : Host} {bound : List (Nat × Forward)}
      {fault : Fault} :
      config.forwards = front ++ f :: back →
      bindForwards config.bindHost h₀ front = .ok (h, bound) →
      h.bind config.bindHost f.listen = .error fault →
      s.outcome = some (.error (.listen f.listen fault.text)) →
      s.host.sockets = h₀.sockets → s.offers = [] → Ends config h₀ s

namespace Traces

variable {h : Host} {bound : List (Nat × Forward)}

/-- When all loops are over, the host has the sockets that it had. -/
theorem sockets_eq (ht : Traces config h₀ h bound s) (hs : ∀ x ∈ h₀.sockets, x.1 < h₀.next)
    (hgone : ∀ l ∈ s.loops, l.watch = .gone) : s.host.sockets = h₀.sockets := by
  obtain ⟨front, -, hbound⟩ := ht.binds
  obtain ⟨gained, hfst, -, hnew, hsockets⟩ := bindForwards_gains hbound
  have hover : ∀ x, isGone s.loops x = true ↔ x ∈ bound.map Prod.fst := by
    intro x
    rw [← ht.loops, List.map_map]
    simp only [isGone, List.any_eq_true, List.mem_map, Function.comp_apply]
    refine exists_congr fun l => and_congr_right fun hl => ?_
    simp [hgone l hl]
  have hnone : gained.reverse.filter (fun x => !isGone s.loops x.1) = [] := by
    rw [List.filter_eq_nil_iff]
    intro x hx
    have hmem : x.1 ∈ gained.map Prod.fst := List.mem_map_of_mem (List.mem_reverse.1 hx)
    simp [(hover x.1).2 (hfst ▸ hmem)]
  have hall : h₀.sockets.filter (fun x => !isGone s.loops x.1) = h₀.sockets := by
    rw [List.filter_eq_self]
    intro x hx
    have hout : ¬ isGone s.loops x.1 = true := by
      rw [hover]
      intro hmem
      rw [← hfst] at hmem
      obtain ⟨y, hy, he⟩ := List.mem_map.1 hmem
      have hlt := hs x hx
      have hle := hnew y hy
      omega
    simpa using hout
  calc s.host.sockets
    _ = h.sockets.filter fun x => !isGone s.loops x.1 := ht.sockets
    _ = h₀.sockets := by rw [hsockets, List.filter_append, hnone, hall, List.nil_append]

theorem ends (ht : Traces config h₀ h bound s) (hs : ∀ x ∈ h₀.sockets, x.1 < h₀.next)
    (hsettled : s.Settled) : Ends config h₀ s := by
  obtain ⟨hout, hidle⟩ := settled_iff.1 hsettled
  obtain ⟨front, hfront, hbound⟩ := ht.binds
  have hcall := ht.callAt
  generalize hrest : s.rest = rest, hclosed : s.closed = closed, he : s.outcome = outcome at hcall
  cases hcall with
  | underWay => exact absurd he hout
  | done =>
    rw [hrest, List.append_nil] at hfront
    subst hfront
    exact .all hbound he (ht.host_eq hclosed)
  | failed hbind =>
    rw [hrest] at hfront
    refine .nothing hfront hbound hbind he (ht.sockets_eq hs ?_) (ht.unheard (by simp [he])).2
    intro l hl
    obtain hgone | ⟨-, -, hopen⟩ := hidle l hl
    · exact hgone
    · rw [hclosed] at hopen
      cases hopen

end Traces

end Startup

namespace Network

variable {Service : Type} {n : Network Service} {o : Options} {h : Host}

/-! ## What is told of a start -/

theorem start_of_ok (hkey : o.authKey ≠ "") (htree : (n.tree.makeAll o.stateDir).2 = .ok ())
    {bound : List (Nat × Forward)}
    (hb : bindForwards n.config.bindHost n.host n.config.forwards = .ok (h, bound)) :
    (n.start o).2 = .ok (n.sessions.length + 1) ∧ (n.start o).1.host = h := by
  unfold start
  rw [if_neg hkey]
  generalize n.tree.makeAll o.stateDir = made at htree
  obtain ⟨tree, r⟩ := made
  obtain rfl : r = .ok () := htree
  dsimp only
  rw [hb]
  exact ⟨rfl, rfl⟩

theorem start_of_error (hkey : o.authKey ≠ "") (htree : (n.tree.makeAll o.stateDir).2 = .ok ())
    {port : UInt16} {fault : Fault}
    (hb : bindForwards n.config.bindHost n.host n.config.forwards = .error (port, fault)) :
    (n.start o).2 = .error (.listen port fault.text) ∧ (n.start o).1.host = n.host := by
  unfold start
  rw [if_neg hkey]
  generalize n.tree.makeAll o.stateDir = made at htree
  obtain ⟨tree, r⟩ := made
  obtain rfl : r = .ok () := htree
  dsimp only
  rw [hb]
  exact ⟨rfl, rfl⟩

/-- A start came to all or to nothing. -/
structure AllOrNothing (n : Network Service) (o : Options) (s : Startup Service) : Prop where
  /-- If every port in order can be bound, the call returned well, and each forward has one socket
  more on the host, which has no other ones besides those that it had. -/
  all : (bindForwards n.config.bindHost n.host n.config.forwards).isOk = true →
    s.outcome = some (.ok ()) ∧ ∃ gained : List (Nat × Endpoint),
      List.Forall₂ (fun f x => f.IsAt n.config.bindHost x.2) n.config.forwards gained ∧
      s.host.sockets = gained.reverse ++ n.host.sockets
  /-- Otherwise it told of the first port that cannot be bound, the host has the sockets that it
  had, and nothing was offered to a fallback. -/
  nothing : (bindForwards n.config.bindHost n.host n.config.forwards).isOk = false →
    (∃ front f back h bound fault, n.config.forwards = front ++ f :: back ∧
      bindForwards n.config.bindHost n.host front = .ok (h, bound) ∧
      h.bind n.config.bindHost f.listen = .error fault ∧
      s.outcome = some (.error (.listen f.listen fault.text))) ∧
    s.host.sockets = n.host.sockets ∧ s.offers = []
  /-- Ports that all are named can be bound just when they are different and none is bound yet. -/
  named : n.host.own n.config.bindHost = true → (∀ f ∈ n.config.forwards, f.listen ≠ 0) →
    (s.outcome = some (.ok ()) ↔ (n.config.forwards.map Forward.listen).Nodup ∧
      ∀ f ∈ n.config.forwards, n.host.isFree ⟨n.config.bindHost, f.listen⟩ = true)
  /-- A port that is named twice is too much. -/
  twice : ¬ ((n.config.forwards.map Forward.listen).filter (· ≠ 0)).Nodup →
    s.outcome ≠ some (.ok ())
  /-- This is what is told of the start as a whole. -/
  whole : s.outcome = some ((n.start o).2.map fun _ => ()) ∧
    s.host.sockets = (n.start o).1.host.sockets

theorem allOrNothing_of_ends {s : Startup Service} (hkey : o.authKey ≠ "")
    (htree : (n.tree.makeAll o.stateDir).2 = .ok ()) (he : s.Ends n.config n.host) :
    AllOrNothing n o s := by
  have hok : s.outcome = some (.ok ()) ↔
      (bindForwards n.config.bindHost n.host n.config.forwards).isOk = true := by
    cases he with
    | all hb hout _ =>
      rw [hb, hout]
      exact iff_of_true rfl rfl
    | nothing hsplit hb hbind hout _ _ =>
      rw [hsplit, bindForwards_refused hb hbind, hout]
      exact iff_of_false nofun nofun
  have hnamed : n.host.own n.config.bindHost = true →
      (∀ f ∈ n.config.forwards, f.listen ≠ 0) → (s.outcome = some (.ok ()) ↔ _) :=
    fun ha hn => hok.trans (bindForwards_isOk_iff ha hn)
  have htwice : ¬ ((n.config.forwards.map Forward.listen).filter (· ≠ 0)).Nodup →
      s.outcome ≠ some (.ok ()) := by
    intro hdup hout
    have hb := hok.1 hout
    cases hr : bindForwards n.config.bindHost n.host n.config.forwards with
    | error e =>
      rw [hr] at hb
      cases hb
    | ok r => exact hdup (nodup_of_bindForwards hr)
  cases he with
  | @all h bound hb hout hhost =>
    obtain ⟨htold, hafter⟩ := start_of_ok hkey htree hb
    obtain ⟨gained, -, hat, -, hsockets⟩ := bindForwards_gains hb
    refine ⟨fun _ => ⟨hout, gained, hat, hhost ▸ hsockets⟩, ?_, hnamed, htwice, ?_, ?_⟩
    · intro hfail
      rw [hb] at hfail
      cases hfail
    · rw [hout, htold]
      rfl
    · rw [hafter, hhost]
  | @nothing front back f h bound fault hsplit hb hbind hout hsockets hoffers =>
    have hrefused := bindForwards_refused hb hbind back
    rw [← hsplit] at hrefused
    obtain ⟨htold, hafter⟩ := start_of_error hkey htree hrefused
    refine ⟨?_, ?_, hnamed, htwice, ?_, ?_⟩
    · intro hall
      rw [hrefused] at hall
      cases hall
    · intro _
      exact ⟨⟨front, f, back, h, bound, fault, hsplit, hb, hbind, hout⟩, hsockets, hoffers⟩
    · rw [hout, htold]
      rfl
    · rw [hafter, hsockets]

/-- In whatever order the call, the loops that it spawned and whoever connects take their steps:
the runtime comes to an end by itself, nothing is offered to a fallback unless the call returned
well, and once everything has settled, all ports are bound in addition or none is. -/
theorem start_all_or_nothing (n : Network Service) {o : Options} (hkey : o.authKey ≠ "")
    (htree : (n.tree.makeAll o.stateDir).2 = .ok ()) (hs : ∀ x ∈ n.host.sockets, x.1 < n.host.next)
    {moves : List (Move Service)} {s : Startup Service}
    (hr : (Startup.begun n.config n.host).run moves = some s) :
    (∃ most, ∀ {more s'}, (∀ m ∈ more, m.isOwn = true) → s.run more = some s' →
      more.length ≤ most) ∧
    (s.outcome ≠ some (.ok ()) → s.offers = []) ∧
    (s.Settled → AllOrNothing n o s) := by
  obtain ⟨h, bound, ht⟩ := (Startup.Traces.begun n.config n.host).run hr
  refine ⟨⟨s.left, ?_⟩, fun hne => (ht.unheard hne).2, ?_⟩
  · intro more s' hown hmore
    exact Nat.le_of_add_right_le (Startup.length_le_left hown hmore)
  · intro hsettled
    exact allOrNothing_of_ends hkey htree (ht.ends hs hsettled)

/-- The third forward names the port of the first. A connection comes to the first one before that
fails, and the second loop begins only after it. -/
theorem start_all_or_nothing_repeated :
    let config : Config := ⟨.v4 .loopback, [⟨8080, 80⟩, ⟨8081, 81⟩, ⟨8080, 82⟩]⟩
    let moves : List (Move Unit) := [.call, .loop 0 .begin, .call,
      .arrive 0 (.ok ⟨.v4 .loopback, 9⟩), .call, .loop 0 .accept, .loop 1 .begin, .loop 1 .stop,
      .loop 0 .stop]
    let host : Host := { sockets := [(0, ⟨.v4 .loopback, 22⟩)], next := 1 }
    ∃ s, (Startup.begun config host).run moves = some s ∧
      s.outcome = some (.error (.listen 8080 Fault.addressInUse.text)) ∧
      s.host.sockets = [(0, ⟨.v4 .loopback, 22⟩)] ∧ s.offers = [] := by
  intro config moves host
  let n : Network Unit := { config := config, host := host }
  let o : Options := ⟨"h", "u", true, "", "key"⟩
  have htree : (n.tree.makeAll o.stateDir).2 = .ok () := by cbv
  have hfails : bindForwards config.bindHost host config.forwards = .error (8080, .addressInUse) := rfl
  have hrun : ((Startup.begun config host).run moves).map
      (fun s => (s.outcome.isSome, s.loops.map ForwardLoop.watch)) =
        some (true, [.gone, .gone]) := by
    decide
  obtain ⟨s, hs, hend⟩ := Option.map_eq_some_iff.1 hrun
  obtain ⟨hout, hgone⟩ := Prod.mk.inj hend
  obtain ⟨-, -, hall⟩ := start_all_or_nothing n (o := o) (by decide) htree (by decide) hs
  have hsettled : s.Settled := by
    refine Startup.settled_iff.2 ⟨Option.isSome_iff_ne_none.1 hout, fun l hl => .inl ?_⟩
    have hmem : l.watch ∈ s.loops.map ForwardLoop.watch := List.mem_map_of_mem hl
    rw [hgone] at hmem
    simpa using hmem
  have hnothing := (hall hsettled).nothing (by rw [hfails]; rfl)
  have hwhole := (hall hsettled).whole.1
  rw [(start_of_error (n := n) (o := o) (by decide) htree hfails).1] at hwhole
  exact ⟨s, hs, hwhole, hnothing.2⟩

end Network

end Tether.Direct
