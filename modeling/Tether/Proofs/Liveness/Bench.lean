import Mathlib
import Tether.Proofs.Liveness.Loop
import Tether.Proofs.Secrecy.Bench
import Tether.Proofs.Sim.Queues

/-!
A liveness endpoint on a listener in memory whose first accepts fail. Each failure costs it a pause,
so it opens at a time that is known when it is set up. Until then it hands nothing on, and whatever
is dialed to its listener waits, also when the session is closed; from then on nothing waits, and
everything that was dialed was handed on, once and in order; it ends when, on top of this, its
listener is cut off.
-/

namespace Tether.Sim

open Tether.Agent Tether.Control Tether.Net Tether.Overlay

/-! ## Turns of a listener -/

namespace Network

variable {n : Network} {l : Nat}

/-- What an endpoint takes from a listener: everything that waits. -/
theorem waitingAt_takeAll {taken : List Connection} (hl : n.waitingAt l = taken) :
    (taken.foldl (fun net _ => (net.accept l).1) n).waitingAt l = [] := by
  induction taken generalizing n with
  | nil => exact hl
  | cons c taken ih =>
    apply ih
    show (n.accept l).1.waitingAt l = taken
    have haccepts := n.accepts_accept l
    generalize n.accept l = r at haccepts
    cases haccepts with
    | @next c' rest hc =>
      have hrest := (List.cons.inj (hc.symm.trans hl)).2
      have hlt : l < n.listeners.length := by
        by_contra hlt
        rw [waitingAt_of_le (Nat.le_of_not_lt hlt)] at hc
        cases hc
      have hwaiting := waitingAt_modifyListener hlt (f := ({ · with waiting := rest }))
        (g := fun _ => rest) (fun _ => rfl) l
      rw [if_pos rfl] at hwaiting
      exact hwaiting.trans hrest
    | pending hw _ | closed hw _ _ =>
      rw [hw] at hl
      cases hl
    | absent hle =>
      rw [waitingAt_of_le hle] at hl
      cases hl

theorem onward_takeAll (taken : List Connection) {i : Nat} (hi : i ≠ l) (n : Network) :
    Onward l [] n (taken.foldl (fun net _ => (net.accept i).1) n) := by
  refine taken.foldlRecOn _ (.same (.refl n) rfl) fun n' h _ _ => ?_
  exact h.trans (.accept hi n')

theorem holds_of_calm {n' : Network} (h : n.Calm n') (l : Nat) : n'.holds l = n.holds l := by
  have hheard : (n'.heard[l]?.map Prod.snd).getD false = (n.heard[l]?.map Prod.snd).getD false := by
    rw [h.heard]
  simpa [heard, holds, List.getElem?_map, Function.comp_def] using hheard

theorem isFed_of_calm {n' : Network} (h : n.Calm n') (l : Nat) : n'.isFed l = n.isFed l := by
  unfold isFed
  rw [h.sessions]

end Network

namespace Bench

/-! ## Where an endpoint stands -/

/-- The connections of a listener that endpoints handed on, each with the time. -/
def handedFrom (b : Bench) (l : Nat) : List (Nat × Connection) :=
  b.handed.filterMap fun x => if x.listener = l then some (x.time, x.connection) else none

/-- The connections of a listener as they are handed on by an endpoint that opens at a time. -/
def onceOpen (opening : Nat) (due : List (Nat × Connection)) : List (Nat × Connection) :=
  due.map fun x => (max x.1 opening, x.2)

/-- What there is to see of a listener: the time, what waits for it, whether connections can still
come, and what was handed on. -/
structure View where
  now : Nat
  waiting : List Connection
  fed : Bool
  handed : List (Nat × Connection)

/-- A listener on the bench. -/
def view (b : Bench) (l : Nat) : View := ⟨b.now, b.net.waitingAt l, b.net.isFed l, b.handedFrom l⟩

/-- Where an endpoint stands, by the failures that are still to come and by what it is doing, if
these connections were dialed to its listener. -/
inductive Stage (v : View) (opening : Nat) (due : List (Nat × Connection)) : Nat → Liveness → Prop
  /-- It pauses. -/
  | pauses {f time : Nat} : time + f * acceptPause = opening → v.now < time →
      v.waiting = due.map Prod.snd → v.handed = [] → Stage v opening due f (.pausing time)
  /-- Its next accept will fail. -/
  | fails {f : Nat} : v.now + f * acceptPause = opening → 0 < f →
      v.waiting = due.map Prod.snd → v.handed = [] → Stage v opening due f .accepting
  /-- It is open, and something may wait that came just now. -/
  | accepts (front back : List (Nat × Connection)) : opening ≤ v.now → due = front ++ back →
      (∀ x ∈ back, max x.1 opening = v.now) → v.waiting = back.map Prod.snd →
      v.handed = onceOpen opening front → Stage v opening due 0 .accepting
  /-- It has come to its end. -/
  | ended : opening ≤ v.now → v.waiting = [] → v.fed = false →
      v.handed = onceOpen opening due → Stage v opening due 0 (.ended .closed)

variable {b b' : Bench} {i l opening : Nat} {due : List (Nat × Connection)} {s : Server}

/-- An endpoint is the only one on its listener. -/
structure Serves (b : Bench) (i l opening : Nat) (due : List (Nat × Connection)) (s : Server) :
    Prop where
  server : b.servers[i]? = some s
  listener : s.listener = l
  alone : ∀ j s', b.servers[j]? = some s' → s'.listener = l → j = i
  holds : b.net.holds l = true
  past : ∀ x ∈ due, x.1 ≤ b.now
  stage : Stage (b.view l) opening due s.failures s.state

/-- The endpoint has done what it can. -/
structure Rests (b : Bench) (i l opening : Nat) (due : List (Nat × Connection)) (s : Server) :
    Prop extends Serves b i l opening due s where
  idle : s.state = .accepting →
    s.failures = 0 ∧ (b.view l).waiting = [] ∧ (b.view l).fed = true

/-! ## One run of an endpoint -/

/-- An endpoint that accepts takes the connections that are there, one after another, and goes on
with what comes behind them. -/
theorem serve_oks (now : Nat) (cs : List Connection)
    (rest : List (Except Overlay.Error Connection)) :
    Liveness.serve now .accepting (cs.map Except.ok ++ rest) =
      ((Liveness.serve now .accepting rest).1, cs ++ (Liveness.serve now .accepting rest).2.1,
        (Liveness.serve now .accepting rest).2.2) := by
  induction cs with
  | nil => rfl
  | cons c cs ih =>
    rw [List.map_cons, List.cons_append, Liveness.serve]
    simp [Liveness.onAccept, ih]

/-- What an endpoint takes whose accepts do not fail. -/
theorem serve_accepts (net : Network) {s : Server} (hs : s.failures = 0) (now : Nat) :
    (Liveness.serve now .accepting (accepts net s)).1 =
        (if net.isFed s.listener then .accepting else .ended .closed) ∧
      (Liveness.serve now .accepting (accepts net s)).2.1 = net.waitingAt s.listener := by
  have haccepts : accepts net s = (net.waitingAt s.listener).map Except.ok ++
      (if net.isFed s.listener then [] else [.error .closed]) := by
    unfold accepts
    rw [if_neg (by omega)]
    rfl
  rw [haccepts, serve_oks]
  by_cases hf : net.isFed s.listener = true
  · simp [hf, Liveness.serve]
  · simp [hf, Liveness.serve, Liveness.onAccept]

/-- What is left of a bench behind the run of an endpoint that accepts. -/
structure Ran (b b' : Bench) (i : Nat) (s s' : Server) (taken : List Connection) : Prop where
  servers : b'.servers = b.servers.set i s'
  now : b'.now = b.now
  net : b'.net = taken.foldl (fun net _ => (net.accept s.listener).1) b.net
  handed : b'.handed = b.handed ++ taken.map (⟨s.listener, b.now, ·⟩)

theorem runServer_accepting (hs : b.servers[i]? = some s)
    (ha : s.state = .accepting) :
    b.Ran (b.runServer i) i s
      { s with
        failures := s.failures - 1
        state := (Liveness.serve b.now .accepting (accepts b.net s)).1 }
      (Liveness.serve b.now .accepting (accepts b.net s)).2.1 := by
  have hrun : ¬ (s.state ≠ .accepting) := fun h => h ha
  unfold runServer
  rw [hs]
  dsimp only
  rw [if_neg hrun, ha]
  exact ⟨rfl, rfl, rfl, rfl⟩

theorem runServer_of_ne (h : ∀ s, b.servers[i]? = some s → s.state ≠ .accepting) :
    b.runServer i = b := by
  unfold runServer
  split
  · rfl
  · rename_i s hs
    rw [if_pos (h s hs)]

/-! ## Settling -/

theorem handedFrom_append {taken : List Connection} {j : Nat}
    (h : b'.handed = b.handed ++ taken.map (⟨j, b.now, ·⟩)) (l : Nat) :
    b'.handedFrom l = b.handedFrom l ++ if j = l then taken.map (b.now, ·) else [] := by
  unfold handedFrom
  rw [h, List.filterMap_append, List.filterMap_map]
  congr 1
  by_cases hj : j = l
  · rw [if_pos hj]
    simp [hj]
  · rw [if_neg hj]
    simp [hj]

theorem onceOpen_append (opening : Nat) (front back : List (Nat × Connection)) :
    onceOpen opening (front ++ back) = onceOpen opening front ++ onceOpen opening back :=
  List.map_append

/-- What came just now is handed on now. -/
theorem onceOpen_eq {back : List (Nat × Connection)} {now : Nat}
    (h : ∀ x ∈ back, max x.1 opening = now) :
    onceOpen opening back = (back.map Prod.snd).map (now, ·) := by
  unfold onceOpen
  rw [List.map_map]
  apply List.map_congr_left
  intro x hx
  rw [h x hx]
  rfl

theorem Ran.alone {s s' : Server} {j : Nat} {taken : List Connection}
    (h : Ran b b' j s s' taken) (hj : b.servers[j]? = some s) (hl : s'.listener = s.listener)
    (ha : ∀ k t, b.servers[k]? = some t → t.listener = l → k = i) :
    ∀ k t, b'.servers[k]? = some t → t.listener = l → k = i := by
  intro k t hk ht
  rw [h.servers, List.getElem?_set] at hk
  split at hk
  · rename_i he
    split at hk
    · cases hk
      exact ha k s (he ▸ hj) (hl ▸ ht)
    · cases hk
  · exact ha k t hk ht

/-- The run of another endpoint does not matter. -/
theorem Ran.view_other {t t' : Server} {j : Nat} {taken : List Connection}
    (h : Ran b b' j t t' taken) (hne : t.listener ≠ l) :
    b'.view l = b.view l ∧ b'.net.holds l = b.net.holds l := by
  have ho : Network.Onward l [] b.net b'.net := by
    rw [h.net]
    exact Network.onward_takeAll taken hne b.net
  have hcalm : b.net.Calm b'.net := by
    rw [h.net]
    exact Network.calm_accepts taken t.listener b.net
  refine ⟨?_, ho.holds⟩
  unfold view
  rw [h.now, ho.waiting, List.append_nil, Network.isFed_of_calm hcalm l,
    handedFrom_append h.handed, if_neg hne, List.append_nil]

theorem Serves.other {t t' : Server} {j : Nat} {taken : List Connection}
    (h : Serves b i l opening due s) (hj : j ≠ i) (hs : b.servers[j]? = some t)
    (hran : Ran b b' j t t' taken) (hl : t'.listener = t.listener) :
    Serves b' i l opening due s := by
  obtain ⟨hview, hholds⟩ := hran.view_other fun he => hj (h.alone j t hs he)
  refine ⟨?_, h.listener, hran.alone hs hl h.alone, ?_, ?_, ?_⟩
  · rw [hran.servers, List.getElem?_set_ne hj]
    exact h.server
  · rw [hholds]
    exact h.holds
  · rw [hran.now]
    exact h.past
  · rw [hview]
    exact h.stage

theorem Rests.other {t t' : Server} {j : Nat} {taken : List Connection}
    (h : Rests b i l opening due s) (hj : j ≠ i) (hs : b.servers[j]? = some t)
    (hran : Ran b b' j t t' taken) (hl : t'.listener = t.listener) :
    Rests b' i l opening due s := by
  obtain ⟨hview, -⟩ := hran.view_other fun he => hj (h.alone j t hs he)
  refine ⟨h.toServes.other hj hs hran hl, ?_⟩
  rw [hview]
  exact h.idle

/-- The run of the endpoint itself leaves it on its listener. -/
theorem Serves.own {s' : Server} {taken : List Connection} (h : Serves b i l opening due s)
    (hran : Ran b b' i s s' taken) (hl : s'.listener = s.listener)
    (hstage : Stage (b'.view l) opening due s'.failures s'.state) :
    Serves b' i l opening due s' := by
  refine ⟨?_, hl.trans h.listener, hran.alone h.server hl h.alone, ?_, ?_, hstage⟩
  · have hi := (List.getElem?_eq_some_iff.1 h.server).1
    rw [hran.servers, List.getElem?_set_self hi]
  · rw [hran.net, Network.holds_of_calm (Network.calm_accepts taken s.listener b.net)]
    exact h.holds
  · rw [hran.now]
    exact h.past

/-- What an endpoint sees of its listener behind its run. -/
theorem Ran.view_own {s' : Server} {taken : List Connection} (hran : Ran b b' i s s' taken)
    (hl : s.listener = l) : (b'.view l).now = (b.view l).now ∧
      (b'.view l).fed = (b.view l).fed ∧
      (b'.view l).handed = (b.view l).handed ++ taken.map ((b.view l).now, ·) := by
  refine ⟨hran.now, ?_, ?_⟩
  · show b'.net.isFed l = b.net.isFed l
    rw [hran.net]
    exact Network.isFed_of_calm (Network.calm_accepts taken s.listener b.net) l
  · show b'.handedFrom l = b.handedFrom l ++ _
    rw [handedFrom_append hran.handed, if_pos hl]
    rfl

/-- An endpoint whose next accept fails pauses. -/
theorem Serves.fail (h : Serves b i l opening due s) (ha : s.state = .accepting)
    (hf : 0 < s.failures) (htime : (b.view l).now + s.failures * acceptPause = opening)
    (hw : (b.view l).waiting = due.map Prod.snd) (hh : (b.view l).handed = []) :
    ∃ s', Rests (b.runServer i) i l opening due s' := by
  have hran := runServer_accepting h.server ha
  have hserve : Liveness.serve b.now .accepting (accepts b.net s) =
      (.pausing (b.now + acceptPause), [], [Liveness.failedEntry tooManyFiles]) := by
    unfold accepts
    rw [if_pos hf]
    rfl
  rw [hserve] at hran
  generalize b.runServer i = b' at hran
  obtain ⟨hnow, hfed, hhanded⟩ := hran.view_own h.listener
  have hwaiting : (b'.view l).waiting = (b.view l).waiting := by
    show b'.net.waitingAt l = b.net.waitingAt l
    rw [hran.net]
    rfl
  refine ⟨_, h.own hran rfl (.pauses ?_ ?_ ?_ ?_), nofun⟩
  · show b.now + acceptPause + (s.failures - 1) * acceptPause = opening
    rw [← htime]
    obtain ⟨f, hf⟩ := Nat.exists_eq_succ_of_ne_zero (Nat.ne_of_gt hf)
    rw [hf, Nat.succ_sub_one, Nat.succ_mul]
    show b.now + acceptPause + f * acceptPause = b.now + (f * acceptPause + acceptPause)
    omega
  · rw [hnow]
    exact Nat.lt_add_of_pos_right (by decide)
  · rw [hwaiting, hw]
  · rw [hhanded, hh]
    rfl

/-- An open endpoint takes what waits. -/
theorem Serves.take {front back : List (Nat × Connection)} (h : Serves b i l opening due s)
    (ha : s.state = .accepting) (hf : s.failures = 0) (hopen : opening ≤ (b.view l).now)
    (hdue : due = front ++ back) (hback : ∀ x ∈ back, max x.1 opening = (b.view l).now)
    (hw : (b.view l).waiting = back.map Prod.snd)
    (hh : (b.view l).handed = onceOpen opening front) :
    ∃ s', Rests (b.runServer i) i l opening due s' := by
  have hran := runServer_accepting h.server ha
  obtain ⟨hstate, htaken⟩ := serve_accepts b.net hf b.now
  rw [h.listener] at hstate htaken
  rw [hstate, htaken] at hran
  generalize b.runServer i = b' at hran
  obtain ⟨hnow, hfed, hhanded⟩ := hran.view_own h.listener
  have hwaiting : (b'.view l).waiting = [] := by
    show b'.net.waitingAt l = []
    rw [hran.net, h.listener]
    exact Network.waitingAt_takeAll rfl
  have hall : (b'.view l).handed = onceOpen opening due := by
    rw [hhanded, hh, hdue, onceOpen_append, onceOpen_eq hback, ← hw]
    rfl
  have hzero : s.failures - 1 = 0 := by omega
  by_cases hfd : b.net.isFed l = true
  · rw [if_pos hfd] at hran
    refine ⟨_, h.own hran rfl ?_, fun _ => ⟨hzero, hwaiting, hfed.trans hfd⟩⟩
    show Stage _ _ _ (s.failures - 1) .accepting
    rw [hzero]
    refine .accepts due [] ?_ (List.append_nil _).symm nofun hwaiting hall
    rw [hnow]
    exact hopen
  · rw [if_neg hfd] at hran
    refine ⟨_, h.own hran rfl ?_, nofun⟩
    show Stage _ _ _ (s.failures - 1) (.ended .closed)
    rw [hzero]
    refine .ended ?_ hwaiting (hfed.trans (Bool.not_eq_true _ ▸ hfd)) hall
    rw [hnow]
    exact hopen

/-- The run of the endpoint itself brings it to rest. -/
theorem Serves.runServer (h : Serves b i l opening due s) :
    ∃ s', Rests (b.runServer i) i l opening due s' := by
  have hstage := h.stage
  obtain ⟨listener, failures, state, ofBuild⟩ := s
  cases hstage with
  | pauses | ended =>
    rw [runServer_of_ne]
    · exact ⟨_, h, nofun⟩
    · intro t ht
      cases h.server.symm.trans ht
      nofun
  | fails htime hf hw hh => exact h.fail rfl hf htime hw hh
  | accepts front back hopen hdue hback hw hh => exact h.take rfl rfl hopen hdue hback hw hh

/-- The run of any endpoint. -/
theorem Serves.step (h : Serves b i l opening due s) (j : Nat) :
    ∃ s', Serves (b.runServer j) i l opening due s' ∧
      (j = i ∨ Rests b i l opening due s → Rests (b.runServer j) i l opening due s') := by
  by_cases hj : j = i
  · subst hj
    obtain ⟨s', hs'⟩ := h.runServer
    exact ⟨s', hs'.toServes, fun _ => hs'⟩
  · cases hs : b.servers[j]? with
    | none =>
      rw [runServer_of_ne (by simp [hs])]
      exact ⟨s, h, fun hr => hr.resolve_left hj⟩
    | some t =>
      by_cases ha : t.state = .accepting
      · have hran := runServer_accepting hs ha
        exact ⟨s, h.other hj hs hran rfl, fun hr => (hr.resolve_left hj).other hj hs hran rfl⟩
      · rw [runServer_of_ne (by simp [hs, ha])]
        exact ⟨s, h, fun hr => hr.resolve_left hj⟩

/-- When every endpoint had its turn, this one is at rest. -/
theorem Serves.steps (h : Serves b i l opening due s) (js : List Nat) :
    ∃ s', Serves (js.foldl Bench.runServer b) i l opening due s' ∧
      (i ∈ js ∨ Rests b i l opening due s →
        Rests (js.foldl Bench.runServer b) i l opening due s') := by
  induction js generalizing b s with
  | nil => exact ⟨s, h, fun hr => hr.resolve_left List.not_mem_nil⟩
  | cons j js ih =>
    obtain ⟨s₁, h₁, hr₁⟩ := h.step j
    obtain ⟨s₂, h₂, hr₂⟩ := ih h₁
    refine ⟨s₂, h₂, fun hr => hr₂ ?_⟩
    obtain hi | hr := hr
    · obtain rfl | hi := List.mem_cons.1 hi
      · exact .inr (hr₁ (.inl rfl))
      · exact .inl hi
    · exact .inr (hr₁ (.inr hr))

/-- Neither endpoints nor the network did anything. -/
structure Beside (b b' : Bench) : Prop where
  servers : b'.servers = b.servers
  net : b'.net = b.net
  now : b'.now = b.now
  handed : b'.handed = b.handed

theorem Beside.refl (b : Bench) : b.Beside b := ⟨rfl, rfl, rfl, rfl⟩

theorem Beside.trans {b'' : Bench} (h : b.Beside b') (h' : b'.Beside b'') : b.Beside b'' :=
  ⟨h'.servers.trans h.servers, h'.net.trans h.net, h'.now.trans h.now, h'.handed.trans h.handed⟩

theorem Beside.view (h : b.Beside b') (l : Nat) : b'.view l = b.view l := by
  unfold Bench.view handedFrom
  rw [h.net, h.now, h.handed]

theorem Serves.beside (h : Serves b i l opening due s) (hb : b.Beside b') :
    Serves b' i l opening due s := by
  refine ⟨?_, h.listener, ?_, ?_, ?_, ?_⟩
  · rw [hb.servers]
    exact h.server
  · rw [hb.servers]
    exact h.alone
  · rw [hb.net]
    exact h.holds
  · rw [hb.now]
    exact h.past
  · rw [hb.view]
    exact h.stage

theorem Rests.beside (h : Rests b i l opening due s) (hb : b.Beside b') :
    Rests b' i l opening due s := by
  refine ⟨h.toServes.beside hb, ?_⟩
  rw [hb.view]
  exact h.idle

theorem beside_runService (b : Bench) (entry : Nat × Service) : b.Beside (b.runService entry) := by
  unfold runService
  split
  · exact .refl b
  · exact ⟨rfl, rfl, rfl, rfl⟩

/-- When everything has run until it waits, the endpoint is at rest. -/
theorem Serves.settle (h : Serves b i l opening due s) :
    ∃ s', Rests b.settle i l opening due s' := by
  obtain ⟨s', -, hr⟩ := h.steps (List.range b.servers.length)
  have hi : i ∈ List.range b.servers.length :=
    List.mem_range.2 (List.getElem?_eq_some_iff.1 h.server).1
  refine ⟨s', (hr (.inl hi)).beside ?_⟩
  unfold Bench.settle
  generalize (List.range b.servers.length).foldl Bench.runServer b = b'
  refine b'.services.foldlRecOn Bench.runService (.refl b') fun b₁ hb₁ entry _ => ?_
  exact hb₁.trans (b₁.beside_runService entry)

/-! ## The network around it -/

/-- The bench is the same but for its network and what is at work on its streams. -/
structure Around (b b' : Bench) : Prop where
  servers : b'.servers = b.servers
  now : b'.now = b.now
  handed : b'.handed = b.handed

/-- What the network brings to the listener of an endpoint at rest is due. -/
theorem Rests.onward {new : List Connection} (h : Rests b i l opening due s) (hb : b.Around b')
    (ho : Network.Onward l new b.net b'.net) :
    Serves b' i l opening (due ++ new.map (b.now, ·)) s := by
  have hhanded : (b'.view l).handed = (b.view l).handed := by
    show b'.handedFrom l = b.handedFrom l
    rw [handedFrom, hb.handed, handedFrom]
  have hwaiting : (b'.view l).waiting = (b.view l).waiting ++ new := ho.waiting
  have hnow : (b'.view l).now = (b.view l).now := hb.now
  have hdue : (due ++ new.map (b.now, ·)).map Prod.snd = due.map Prod.snd ++ new := by
    rw [List.map_append, List.map_map]
    congr 1
    exact List.map_id _
  refine ⟨?_, h.listener, ?_, ?_, ?_, ?_⟩
  · rw [hb.servers]
    exact h.server
  · rw [hb.servers]
    exact h.alone
  · rw [ho.holds]
    exact h.holds
  · rw [hb.now]
    intro x hx
    obtain hx | hx := List.mem_append.1 hx
    · exact h.past x hx
    · obtain ⟨c, -, rfl⟩ := List.mem_map.1 hx
      exact Nat.le_refl _
  · have hstage := h.stage
    have hidle := h.idle
    obtain ⟨listener, failures, state, ofBuild⟩ := s
    cases hstage with
    | pauses htime hlt hw hh =>
      refine .pauses htime (hnow ▸ hlt) ?_ (hhanded.trans hh)
      rw [hwaiting, hw, hdue]
    | fails htime hf hw hh => exact absurd (hidle rfl).1 (Nat.ne_of_gt hf)
    | accepts front back hopen hsplit hback hw hh =>
      -- nothing waits while the endpoint is at rest
      have hnil : back = [] := List.map_eq_nil_iff.1 (hw.symm.trans (hidle rfl).2.1)
      rw [hnil, List.append_nil] at hsplit
      refine .accepts due (new.map (b.now, ·)) (hnow ▸ hopen) rfl ?_ ?_ ?_
      · intro x hx
        obtain ⟨c, -, rfl⟩ := List.mem_map.1 hx
        rw [hnow]
        exact Nat.max_eq_left hopen
      · rw [hwaiting, (hidle rfl).2.1, List.map_map]
        exact (List.map_id _).symm
      · rw [hhanded, hh, hsplit]
    | ended hopen hw hf hh =>
      have hnew : new = [] := by
        by_contra hne
        exact absurd ((ho.brought hne).symm.trans hf) (by decide)
      subst hnew
      rw [List.map_nil, List.append_nil]
      refine .ended (hnow ▸ hopen) ?_ ?_ (hhanded.trans hh)
      · rw [hwaiting, hw]
        rfl
      · rw [← Bool.not_eq_true]
        intro hfd
        exact absurd ((ho.fed hfd).symm.trans hf) (by decide)

/-- What brings nothing to the listener and does not cut it off leaves the endpoint at rest. -/
theorem Rests.still (h : Rests b i l opening due s) (hb : b.Around b')
    (ho : Network.Onward l [] b.net b'.net) (hf : b'.net.isFed l = b.net.isFed l) :
    Rests b' i l opening due s := by
  have hs := h.onward hb ho
  rw [List.map_nil, List.append_nil] at hs
  refine ⟨hs, ?_⟩
  show s.state = .accepting → s.failures = 0 ∧ b'.net.waitingAt l = [] ∧ b'.net.isFed l = true
  rw [ho.waiting, List.append_nil, hf]
  exact h.idle

/-! ## The clock -/

/-- No pause is over, and whatever was handed on came from a listener with an endpoint. -/
structure Orderly (b : Bench) : Prop where
  punctual : ∀ s ∈ b.servers, ∀ t ∈ s.state.due?, b.now < t
  attended : ∀ x ∈ b.handed, ∃ s ∈ b.servers, s.listener = x.listener

/-- How often an endpoint can still wake up. -/
def effort (s : Server) : Nat := s.failures + s.state.due?.toList.length

/-- How often the endpoints can still wake up. -/
def efforts (b : Bench) : Nat := (b.servers.map effort).sum

theorem efforts_le_stops (b : Bench) : b.efforts ≤ b.stops := by
  have hle : ∀ (servers : List Server) (n : Nat),
      n + (servers.map effort).sum ≤ servers.foldl (fun n s => n + s.failures + 1) n := by
    intro servers
    induction servers with
    | nil => intro n; exact Nat.le_refl _
    | cons s servers ih =>
      intro n
      have hs : effort s ≤ s.failures + 1 := by
        unfold effort
        cases s.state.due? <;> simp
      have hrest := ih (n + s.failures + 1)
      rw [List.map_cons, List.sum_cons, List.foldl_cons]
      omega
  have h := hle b.servers 0
  rwa [Nat.zero_add] at h

/-- What an endpoint does that runs: it wakes up no oftener, and a pause of it begins now. -/
theorem serve_effort (net : Network) (ha : s.state = .accepting) (now : Nat) :
    effort { s with
      failures := s.failures - 1
      state := (Liveness.serve now .accepting (accepts net s)).1 } ≤ effort s ∧
    ∀ t ∈ (Liveness.serve now .accepting (accepts net s)).1.due?, now < t := by
  unfold effort
  rw [ha]
  by_cases hf : 0 < s.failures
  · have hserve : Liveness.serve now .accepting (accepts net s) =
        (.pausing (now + acceptPause), [], [Liveness.failedEntry tooManyFiles]) := by
      unfold accepts
      rw [if_pos hf]
      rfl
    rw [hserve]
    refine ⟨?_, ?_⟩
    · show s.failures - 1 + 1 ≤ s.failures
      omega
    · intro t ht
      cases ht
      exact Nat.lt_add_of_pos_right (by decide)
  · rw [(serve_accepts net (by omega) now).1]
    by_cases hfd : net.isFed s.listener = true
    · rw [if_pos hfd]
      exact ⟨Nat.sub_le _ _, nofun⟩
    · rw [if_neg hfd]
      exact ⟨Nat.sub_le _ _, nofun⟩

theorem sum_map_set_le {servers : List Server} {s' : Server} (hs : servers[i]? = some s)
    (hle : effort s' ≤ effort s) :
    ((servers.set i s').map effort).sum ≤ (servers.map effort).sum := by
  obtain ⟨front, back, he, -, hmodify⟩ := exists_split hs
  rw [List.set_eq_modify, hmodify, he]
  simp only [List.map_append, List.map_cons, List.sum_append, List.sum_cons]
  omega

/-- The bench went on while the clock stood still. -/
structure Settles (b b' : Bench) : Prop where
  now : b'.now = b.now
  efforts : b'.efforts ≤ b.efforts
  orderly : b.Orderly → b'.Orderly

theorem Settles.refl (b : Bench) : b.Settles b := ⟨rfl, Nat.le_refl _, id⟩

theorem Settles.trans {b'' : Bench} (h : b.Settles b') (h' : b'.Settles b'') : b.Settles b'' :=
  ⟨h'.now.trans h.now, Nat.le_trans h'.efforts h.efforts, fun ho => h'.orderly (h.orderly ho)⟩

theorem Around.settles (h : b.Around b') : b.Settles b' := by
  refine ⟨h.now, ?_, ?_⟩
  · unfold efforts
    rw [h.servers]
  · rintro ⟨hpunctual, hattended⟩
    refine ⟨?_, ?_⟩
    · rw [h.servers, h.now]
      exact hpunctual
    · rw [h.servers, h.handed]
      exact hattended

theorem Ran.settles {s' : Server} {taken : List Connection} (h : Ran b b' i s s' taken)
    (hs : b.servers[i]? = some s) (hl : s'.listener = s.listener) (hle : effort s' ≤ effort s)
    (hdue : ∀ t ∈ s'.state.due?, b.now < t) : b.Settles b' := by
  refine ⟨h.now, ?_, ?_⟩
  · unfold efforts
    rw [h.servers]
    exact sum_map_set_le hs hle
  · rintro ⟨hpunctual, hattended⟩
    have hmem : s' ∈ b'.servers := by
      rw [h.servers]
      exact List.mem_set (List.getElem?_eq_some_iff.1 hs).1 _
    refine ⟨?_, ?_⟩
    · intro t ht
      rw [h.servers] at ht
      rw [h.now]
      obtain ht | rfl := List.mem_or_eq_of_mem_set ht
      · exact hpunctual t ht
      · exact hdue
    · intro x hx
      rw [h.handed] at hx
      obtain hx | hx := List.mem_append.1 hx
      · obtain ⟨t, ht, htx⟩ := hattended x hx
        obtain ⟨j, hj⟩ := List.getElem?_of_mem ht
        by_cases he : i = j
        · -- its endpoint is the one that ran
          subst he
          cases hs.symm.trans hj
          exact ⟨s', hmem, hl.trans htx⟩
        · refine ⟨t, ?_, htx⟩
          rw [h.servers]
          apply List.mem_of_getElem? (i := j)
          rw [List.getElem?_set_ne he]
          exact hj
      · obtain ⟨c, -, rfl⟩ := List.mem_map.1 hx
        exact ⟨s', hmem, hl⟩

theorem settles_runServer (b : Bench) (j : Nat) : b.Settles (b.runServer j) := by
  cases hs : b.servers[j]? with
  | none =>
    rw [runServer_of_ne (by simp [hs])]
    exact .refl b
  | some s =>
    by_cases ha : s.state = .accepting
    · obtain ⟨hle, hdue⟩ := serve_effort b.net ha b.now
      exact (runServer_accepting hs ha).settles hs rfl hle hdue
    · rw [runServer_of_ne (by simp [hs, ha])]
      exact .refl b

theorem Beside.around (h : b.Beside b') : b.Around b' := ⟨h.servers, h.now, h.handed⟩

theorem settles_settle (b : Bench) : b.Settles b.settle := by
  have hservers : b.Settles ((List.range b.servers.length).foldl Bench.runServer b) :=
    (List.range b.servers.length).foldlRecOn Bench.runServer (.refl b) fun b₁ h₁ j _ =>
      h₁.trans (b₁.settles_runServer j)
  unfold Bench.settle
  generalize (List.range b.servers.length).foldl Bench.runServer b = b' at hservers
  refine b'.services.foldlRecOn Bench.runService hservers fun b₁ h₁ entry _ => ?_
  exact h₁.trans (b₁.beside_runService entry).around.settles

/-- The pauses that are over at a time end. -/
def wake (b : Bench) (time : Nat) : Bench :=
  { b with
    now := time
    servers := b.servers.map fun s => { s with state := s.state.wake time } }

theorem effort_wake_le (s : Server) (time : Nat) :
    effort { s with state := s.state.wake time } ≤ effort s := by
  obtain ⟨listener, failures, state, ofBuild⟩ := s
  cases state with
  | pausing t =>
    show effort ⟨listener, failures, if t ≤ time then .accepting else .pausing t, ofBuild⟩ ≤ _
    split
    · exact Nat.le_succ _
    · exact Nat.le_refl _
  | accepting | ended => exact Nat.le_refl _

theorem effort_wake_lt {time : Nat} (hs : s.state.due? = some time) :
    effort { s with state := s.state.wake time } < effort s := by
  obtain ⟨listener, failures, state, ofBuild⟩ := s
  cases state with
  | pausing t =>
    cases hs
    show effort ⟨listener, failures, if time ≤ time then .accepting else .pausing time, ofBuild⟩ < _
    rw [if_pos (Nat.le_refl _)]
    exact Nat.lt_succ_self _
  | accepting | ended => cases hs

theorem Orderly.wake (h : b.Orderly) (time : Nat) : (b.wake time).Orderly where
  punctual s hs t ht := by
    obtain ⟨s, -, rfl⟩ := List.mem_map.1 hs
    obtain ⟨listener, failures, state, ofBuild⟩ := s
    cases state with
    | pausing u =>
      replace ht : t ∈ Liveness.due? (if u ≤ time then .accepting else .pausing u) := ht
      split at ht
      · cases ht
      · cases ht
        exact Nat.lt_of_not_le ‹_›
    | accepting | ended => cases ht
  attended x hx := by
    obtain ⟨s, hs, hl⟩ := h.attended x hx
    exact ⟨_, List.mem_map_of_mem hs, hl⟩

theorem alarm?_eq_some {time : Nat} (h : b.alarm? = some time) :
    (∃ s ∈ b.servers, s.state.due? = some time) ∧
      ∀ s ∈ b.servers, ∀ t ∈ s.state.due?, time ≤ t := by
  obtain ⟨hmem, hle⟩ := List.min?_eq_some_iff.1 h
  refine ⟨List.mem_filterMap.1 hmem, ?_⟩
  intro s hs t ht
  exact hle t (List.mem_filterMap.2 ⟨s, hs, ht⟩)

theorem alarm?_eq_none (h : b.alarm? = none) : ∀ s ∈ b.servers, ∀ t, t ∉ s.state.due? := by
  intro s hs t ht
  have hnil := List.min?_eq_none_iff.1 h
  have hmem : t ∈ b.servers.filterMap fun s => s.state.due? := List.mem_filterMap.2 ⟨s, hs, ht⟩
  rw [hnil] at hmem
  cases hmem

theorem efforts_wake_lt {time : Nat} (h : b.alarm? = some time) :
    (b.wake time).efforts < b.efforts := by
  obtain ⟨⟨s, hs, hdue⟩, -⟩ := alarm?_eq_some h
  unfold efforts wake
  rw [List.map_map]
  exact List.sum_lt_sum _ _ (fun s _ => effort_wake_le s time) ⟨s, hs, effort_wake_lt hdue⟩

/-- The end of a pause may bring an endpoint back to its listener. -/
theorem Rests.wake {time : Nat} (h : Rests b i l opening due s) (hnow : b.now ≤ time)
    (hdue : ∀ t ∈ s.state.due?, time ≤ t) :
    Serves (b.wake time) i l opening due { s with state := s.state.wake time } := by
  refine ⟨?_, h.listener, ?_, h.holds, fun x hx => Nat.le_trans (h.past x hx) hnow, ?_⟩
  · show (b.servers.map _)[i]? = _
    rw [List.getElem?_map, h.server]
    rfl
  · intro j t ht hl
    replace ht : (b.servers.map _)[j]? = some t := ht
    rw [List.getElem?_map] at ht
    obtain ⟨t', ht', rfl⟩ := Option.map_eq_some_iff.1 ht
    exact h.alone j t' ht' hl
  · have hstage := h.stage
    have hidle := h.idle
    have hpast := h.past
    obtain ⟨listener, failures, state, ofBuild⟩ := s
    cases hstage with
    | @pauses _ until_ htime hlt hw hh =>
      have hle : time ≤ until_ := hdue until_ rfl
      show Stage _ opening due failures (if until_ ≤ time then .accepting else .pausing until_)
      split
      · have he : until_ = time := by omega
        obtain rfl | hf := Nat.eq_zero_or_pos failures
        · rw [Nat.zero_mul, Nat.add_zero, he] at htime
          refine .accepts [] due (Nat.le_of_eq htime.symm) rfl ?_ hw hh
          intro x hx
          have hx := hpast x hx
          show max x.1 opening = time
          omega
        · exact .fails (he ▸ htime) hf hw hh
      · rename_i hlater
        exact .pauses htime (Nat.lt_of_not_le hlater) hw hh
    | fails htime hf hw hh => exact absurd (hidle rfl).1 (Nat.ne_of_gt hf)
    | accepts front back hopen hsplit hback hw hh =>
      have hnil : back = [] := List.map_eq_nil_iff.1 (hw.symm.trans (hidle rfl).2.1)
      subst hnil
      exact .accepts front [] (Nat.le_trans hopen hnow) hsplit nofun hw hh
    | ended hopen hw hf hh => exact .ended (Nat.le_trans hopen hnow) hw hf hh

/-- Time goes by for an endpoint at rest, as long as no pause of it is over. -/
theorem Rests.later {time : Nat} (h : Rests b i l opening due s) (hnow : b.now ≤ time)
    (hdue : ∀ t ∈ s.state.due?, time < t) :
    Rests { b with now := time } i l opening due s := by
  refine ⟨⟨h.server, h.listener, h.alone, h.holds, ?_, ?_⟩, h.idle⟩
  · intro x hx
    exact Nat.le_trans (h.past x hx) hnow
  · have hstage := h.stage
    have hidle := h.idle
    obtain ⟨listener, failures, state, ofBuild⟩ := s
    cases hstage with
    | pauses htime hlt hw hh => exact .pauses htime (hdue _ rfl) hw hh
    | fails htime hf hw hh => exact absurd (hidle rfl).1 (Nat.ne_of_gt hf)
    | accepts front back hopen hsplit hback hw hh =>
      have hnil : back = [] := List.map_eq_nil_iff.1 (hw.symm.trans (hidle rfl).2.1)
      subst hnil
      exact .accepts front [] (Nat.le_trans hopen hnow) hsplit nofun hw hh
    | ended hopen hw hf hh => exact .ended (Nat.le_trans hopen hnow) hw hf hh

/-- The clock moves on, and stops for every endpoint whose pause is over. -/
structure Moves (b b' : Bench) (time : Nat) : Prop where
  orderly : b'.Orderly
  now : b'.now = time
  rests : ∀ i l opening due s, Rests b i l opening due s → ∃ s', Rests b' i l opening due s'

/-- Nobody is to be woken up to a time. -/
theorem moves_of_lt {time : Nat} (ho : b.Orderly) (hnow : b.now ≤ time)
    (hdue : ∀ s ∈ b.servers, ∀ t ∈ s.state.due?, time < t) :
    b.Moves { b with now := time } time := by
  refine ⟨⟨hdue, ho.attended⟩, rfl, ?_⟩
  intro i l opening due s h
  exact ⟨s, h.later hnow (hdue s (List.mem_of_getElem? h.server))⟩

theorem moves_moveTo {time : Nat} (stops : Nat) (ho : b.Orderly) (hs : b.efforts ≤ stops)
    (hnow : b.now ≤ time) : b.Moves (moveTo time stops b) time := by
  induction stops generalizing b with
  | zero =>
    -- nobody can wake up any more, so nobody pauses
    apply moves_of_lt ho hnow
    intro s hmem t ht
    have hle : effort s ≤ b.efforts := List.single_le_sum (fun _ _ => Nat.zero_le _) _
      (List.mem_map_of_mem hmem)
    rw [effort, Option.mem_def.1 ht] at hle
    simp at hle
    omega
  | succ stops ih =>
    unfold moveTo
    split
    · rename_i t halarm
      obtain ⟨⟨s, hmem, hdue⟩, hfirst⟩ := alarm?_eq_some halarm
      split
      · rename_i hle
        have hsettle := (b.wake t).settles_settle
        have hless := efforts_wake_lt halarm
        have hnext : b.now < t := ho.punctual s hmem t hdue
        have hrec : (b.wakeAt t).Moves (moveTo time stops (b.wakeAt t)) time := by
          apply ih
          · exact hsettle.orderly (ho.wake t)
          · have hwoken : (b.wakeAt t).efforts ≤ (b.wake t).efforts := hsettle.efforts
            omega
          · exact hsettle.now ▸ hle
        refine ⟨hrec.orderly, hrec.now, ?_⟩
        intro i l opening due s h
        obtain ⟨s', hs'⟩ := (h.wake (Nat.le_of_lt hnext)
          (hfirst s (List.mem_of_getElem? h.server))).settle
        exact hrec.rests i l opening due s' hs'
      · rename_i hlt
        apply moves_of_lt ho hnow
        intro s hs t' ht'
        exact Nat.lt_of_lt_of_le (Nat.lt_of_not_le hlt) (hfirst s hs t' ht')
    · rename_i halarm
      apply moves_of_lt ho hnow
      intro s hs t ht
      exact absurd ht (alarm?_eq_none halarm s hs t)

theorem moves_advance (ho : b.Orderly) (time : Nat) :
    b.Moves (b.advance time) (b.now + time) :=
  moves_moveTo b.stops ho b.efforts_le_stops (Nat.le_add_right _ _)

end Bench

end Tether.Sim
