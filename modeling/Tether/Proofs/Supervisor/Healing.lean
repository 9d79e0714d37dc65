import Mathlib.Algebra.Ring.Nat
import Tether.Proofs.Supervisor.Settled

/-!
A supervisor heals itself. When no fault is left to come, the next check fails at most once: the
build that follows gets its key at once, its session stays healthy, and from then on nothing is
replaced. `Supervisor.Heals` bounds the time at which that is so from wherever the supervisor
waits, each action keeps the bound, and `self_healing` puts the two together for every run.
-/

namespace Tether.Agent

open Tether.Control Tether.Overlay Tether.Sim

/-! ## No fault to come -/

/-- The network shows no fault: each open session will be found healthy, and every start and every
listen will succeed. -/
def Faultless (n : Network) : Prop :=
  (∀ o ∈ n.health, o = .member) ∧ n.startFailures = 0 ∧ n.failListen = false

/-- Every call of a source that was not made yet brings a key at once. -/
def Prompt (s : Source) : Prop :=
  ∀ call, s.calls < call → (s.reply call).delay = 0 ∧ ∃ key, s.result call = .ok key

theorem faultless_close {n : Network} (h : Faultless n) (id : Nat) : Faultless (n.close id).1 := by
  unfold Network.close
  split
  · cases id <;> exact h
  · exact h

theorem localClient_faultless {n : Network} (h : Faultless n) : n.localClient = (n, .ok ()) := by
  unfold Network.localClient
  split
  · rename_i rest he
    have hm : HealthOutcome.localClientError = .member := by
      apply h.1
      rw [he]
      exact List.mem_cons_self
    cases hm
  · rfl

/-- On a network without faults the status tells whether the session is open. -/
theorem status_faultless {n : Network} (h : Faultless n) (id : Nat) :
    Faultless (n.status id).1 ∧
      ∃ status, (n.status id).2 = .ok status ∧ status.isMember = n.isOpen id := by
  obtain ⟨hh, hs, hl⟩ := h
  have ho : ({ n with healthChecks := n.healthChecks + 1 } : Network).isOpen id = n.isOpen id := rfl
  unfold Network.status
  dsimp only
  rw [ho]
  cases n.isOpen id with
  | false => exact ⟨⟨hh, hs, hl⟩, _, rfl, rfl⟩
  | true =>
    cases hn : n.health with
    | nil => exact ⟨⟨by simp, hs, hl⟩, _, rfl, rfl⟩
    | cons o rest =>
      rw [hn] at hh
      have hm : o = .member := hh o List.mem_cons_self
      subst hm
      refine ⟨⟨?_, hs, hl⟩, _, rfl, rfl⟩
      intro o ho
      exact hh o (List.mem_cons_of_mem _ ho)

/-- On a network without faults a check finds out whether the session is open. -/
theorem checkHealth_faultless {n : Network} (h : Faultless n) (id : Nat) :
    Faultless (checkHealth n (some id)).1 ∧ (checkHealth n (some id)).2.isOk = n.isOpen id := by
  obtain ⟨hf, status, hr, hm⟩ := status_faultless h id
  unfold checkHealth
  dsimp only
  rw [localClient_faultless h]
  dsimp only
  generalize n.status id = r at hf hr ⊢
  obtain ⟨net, result⟩ := r
  simp only at hf hr
  subst hr
  refine ⟨hf, ?_⟩
  show (if status.isMember then Except.ok status
    else Except.error (HealthError.notMember status.backendState)).isOk = n.isOpen id
  rw [hm]
  cases n.isOpen id <;> rfl

/-- A prompt source gives a key to whoever asks, and stays prompt. -/
theorem prompt_ask {s : Source} (h : Prompt s) (now attempt : Nat) :
    Prompt (s.ask now attempt).1 ∧
      ∃ key, (s.ask now attempt).2 = ⟨attempt, now, .asking (.ok key)⟩ := by
  constructor
  · intro call hc
    refine h call ?_
    simp only [Source.ask, Source.calls, List.length_append, List.length_singleton] at hc ⊢
    omega
  · obtain ⟨hd, key, hk⟩ := h (s.calls + 1) (Nat.lt_succ_self _)
    refine ⟨key, ?_⟩
    unfold Source.ask
    dsimp only
    rw [hd, hk]
    rfl

/-- Behind its script a source is prompt. -/
theorem prompt_of_spent {s : Source} (h : s.script.length ≤ s.calls) : Prompt s := by
  intro call hc
  have hr : s.reply call = ⟨0, .numbered⟩ := Source.reply_of_le (by omega)
  refine ⟨by rw [hr], ⟨"key-" ++ toString call, Source.numbered_notBlank call⟩, ?_⟩
  unfold Source.result
  rw [hr]

namespace Supervisor

/-- No fault is left to come. -/
def Quiet (s : Supervisor) : Prop := Faultless s.net ∧ Prompt s.source

/-- The session of a number is in service and open. -/
def Serves (s : Supervisor) (id : Nat) : Prop :=
  s.state = .connected ∧ s.slot = some ⟨s.generation, id⟩ ∧ s.current = some id ∧
    s.net.isOpen id = true

/-- The supervisor only has to watch the session of a number, or it lost its timer behind the
session's installation and does nothing any more. -/
def Serving (s : Supervisor) (id : Nat) : Prop :=
  s.Serves id ∧
    (s.pending = false ∧ (∃ deadline, s.phase = .watching deadline) ∨ s.phase = .crashed)

/-- A session is served, or will be by a time. -/
def Heals (s : Supervisor) (time : Nat) : Prop :=
  (∃ id, s.Serving id) ∨
    match s.phase with
    | .watching deadline => deadline.ticks ≤ time
    | .building p =>
      match p.stage with
      | .asking (.error _) => p.due + s.setup.retry.ticks ≤ time
      | _ => p.due ≤ time
    | .crashed | .stopped => False

/-! ## Actions without faults -/

/-- The slot, the count of sessions and the number of sessions ever started are the same. -/
def Unchanged (s s' : Supervisor) : Prop :=
  s'.slot = s.slot ∧ s'.generation = s.generation ∧
    s'.net.sessions.length = s.net.sessions.length

theorem Unchanged.refl (s : Supervisor) : s.Unchanged s := ⟨rfl, rfl, rfl⟩

theorem Unchanged.trans {s₁ s₂ s₃ : Supervisor} (h : s₁.Unchanged s₂) (h' : s₂.Unchanged s₃) :
    s₁.Unchanged s₃ :=
  ⟨h'.1.trans h.1, h'.2.1.trans h.2.1, h'.2.2.trans h.2.2⟩

theorem quiet_withdraw {s : Supervisor} (h : s.Quiet) : s.withdraw.Quiet := by
  unfold withdraw
  split
  · exact h
  · exact ⟨faultless_close h.1 _, h.2⟩

/-- A replacement that is begun gets its key at once. -/
theorem reconnect_heals {s : Supervisor} {time : Nat} (h : s.Quiet) (ht : s.now ≤ time) :
    s.reconnect.Quiet ∧ s.reconnect.Heals time := by
  obtain ⟨hp, key, hk⟩ := prompt_ask h.2 s.now 1
  refine ⟨⟨(quiet_withdraw (s := s.publish .unhealthy) h).1, ?_⟩, Or.inr ?_⟩
  · rw [source_reconnect]
    exact hp
  · rw [phase_reconnect, hk]
    exact ht

/-- Behind a replacement that succeeded its session is served, or the next one begins. -/
theorem rearm_heals {s : Supervisor} {id time : Nat} (h : s.Quiet) (hs : s.Serves id)
    (ht : s.now ≤ time) : s.rearm.Quiet ∧ s.rearm.Heals time := by
  unfold rearm
  split
  · rw [rest_watching rfl]
    split
    · exact reconnect_heals h ht
    · rename_i hp
      refine ⟨h, Or.inl ⟨id, hs, Or.inl ⟨?_, _, rfl⟩⟩⟩
      simpa using hp
  · exact ⟨h, Or.inl ⟨id, hs, Or.inr rfl⟩⟩

/-- Without faults a build succeeds, and its session is served. -/
theorem finishBuild_serves {s : Supervisor} (h : s.Quiet) (key : Key) :
    (s.finishBuild key).2 = none ∧ (s.finishBuild key).1.Quiet ∧
      (s.finishBuild key).1.Serves (s.net.sessions.length + 1) := by
  obtain ⟨⟨hh, hs, hl⟩, hp⟩ := h
  obtain ⟨net, listener, hb, ho, hh', hs', hl'⟩ :=
    Network.build_ready hs hl s.setup.settings key
  unfold finishBuild
  rw [hb]
  refine ⟨rfl, ⟨⟨?_, hs', hl'⟩, hp⟩, ?_⟩
  · intro o ho
    exact hh o (by rw [← hh']; exact ho)
  · exact ⟨rfl, rfl, rfl, ho⟩

/-- A check of the session that is served passes, and changes nothing that shows. -/
theorem check_serving {s : Supervisor} {id : Nat} (deadline : Time.Span) (h : s.Quiet)
    (hs : s.Serves id) (hp : s.pending = false) :
    (s.check deadline).Quiet ∧ (s.check deadline).Serving id ∧
      s.Unchanged (s.check deadline) := by
  obtain ⟨-, hsl, hcu, ho⟩ := hs
  obtain ⟨hf, hok⟩ := checkHealth_faultless h.1 id
  rw [ho] at hok
  have hn : (checkHealth s.net (some id)).1.sessions = s.net.sessions :=
    Network.sessions_checkHealth _ _
  have ho' : (checkHealth s.net (some id)).1.isOpen id = true :=
    (Network.isOpen_congr hn id).trans ho
  unfold check
  rw [hcu]
  dsimp only
  rw [if_pos hok]
  exact ⟨⟨hf, h.2⟩, ⟨⟨rfl, hsl, rfl, ho'⟩, Or.inl ⟨hp, _, rfl⟩⟩, rfl, rfl,
    congrArg List.length hn⟩

/-! ## The time of healing -/

/-- A check passes only if a session is served; else a replacement begins. -/
theorem check_heals {s : Supervisor} {time : Nat} (deadline : Time.Span) (h : s.Quiet)
    (hs : s.Poised) (hp : s.pending = false) (ht : (∃ id, s.Serves id) ∨ s.now ≤ time) :
    (s.check deadline).Quiet ∧ (s.check deadline).Heals time := by
  by_cases hserves : ∃ id, s.Serves id
  · obtain ⟨id, hid⟩ := hserves
    obtain ⟨hq, hc, -⟩ := check_serving deadline h hid hp
    exact ⟨hq, Or.inl ⟨id, hc⟩⟩
  · -- no session is held, or the one that is held was closed by someone else
    have hbad : (checkHealth s.net s.current).2.isOk = false := by
      obtain ⟨hst, -, id, hsl, hcu, -⟩ | ⟨-, -, -, hcu⟩ := hs
      · rw [hcu, (checkHealth_faultless h.1 id).2, Bool.eq_false_iff]
        intro ho
        exact hserves ⟨id, hst, hsl, hcu, ho⟩
      · rw [hcu]
        rfl
    have hq : Faultless (checkHealth s.net s.current).1 := by
      cases s.current with
      | none => exact h.1
      | some id => exact (checkHealth_faultless h.1 id).1
    unfold check
    dsimp only
    rw [hbad]
    exact reconnect_heals ⟨hq, h.2⟩ (ht.resolve_left hserves)

theorem fits_act {s : Supervisor} (h : s.Fits .wait) : s.act.Fits .wait := by
  have hr : Moment.Reaches ⟨false, .wait, s⟩ ⟨false, .wait, s⟩ := .refl
  exact hr.act.fits h

/-- A key that comes in time is followed by a session that is served. -/
theorem rebuild_heals {s : Supervisor} {time : Nat} (hq : s.Quiet) (ht : s.now ≤ time)
    (key : Key) : (s.rebuild key).Quiet ∧ (s.rebuild key).Heals time := by
  obtain ⟨hn, hb, hs⟩ := finishBuild_serves hq key
  unfold rebuild
  rw [hn]
  have hnow : ((s.finishBuild key).1.conclude none).now ≤ time := by
    rw [now_conclude, now_finishBuild]
    exact ht
  exact rearm_heals (s := (s.finishBuild key).1.conclude none) hb hs hnow

/-- No action puts healing off. -/
theorem act_heals {s : Supervisor} {time : Nat} (hf : s.Fits .wait) (hw : s.AtWork)
    (hq : s.Quiet) (h : s.Heals time) : s.act.Quiet ∧ s.act.Heals time := by
  cases hp : s.phase with
  | watching deadline =>
    simp only [Fits, hp] at hf
    simp only [AtWork, hp] at hw
    rw [act_watching hp]
    refine check_heals (s := { s with now := deadline.ticks }) deadline hq hf hw.1 ?_
    obtain ⟨id, hs, -⟩ | hd := h
    · exact Or.inl ⟨id, hs⟩
    · simp only [hp] at hd
      exact Or.inr hd
  | building p =>
    obtain ⟨id, -, ⟨-, due, hdue⟩ | hc⟩ | hd := h
    · rw [hdue] at hp
      cases hp
    · rw [hc] at hp
      cases hp
    · simp only [hp] at hd
      cases hst : p.stage with
      | resting =>
        -- the source is asked again, and will bring a key at once
        simp only [hst] at hd
        obtain ⟨hpr, key, hk⟩ := prompt_ask hq.2 p.due (p.attempt + 1)
        rw [act_resting hp hst, hk]
        exact ⟨⟨hq.1, hpr⟩, Or.inr hd⟩
      | asking result =>
        cases result with
        | error e =>
          -- the bound holds the rest that follows the call
          simp only [hst] at hd
          rw [act_error hp hst]
          exact ⟨hq, Or.inr hd⟩
        | ok key =>
          simp only [hst] at hd
          obtain ⟨log, ha⟩ := act_key hp hst
          rw [ha]
          exact rebuild_heals (s := { s with now := p.due, log := log }) hq hd key
  | crashed =>
    simp only [act, hp]
    exact ⟨hq, h⟩
  | stopped =>
    simp only [AtWork, hp] at hw

/-- The supervisor is at work, no fault is left to come, and it heals by a time. -/
def Mends (s : Supervisor) (time : Nat) : Prop :=
  s.Fits .wait ∧ s.AtWork ∧ s.Quiet ∧ s.Heals time

theorem runTo_mends {s : Supervisor} {time : Nat} (limit : Nat) (h : s.Mends time) :
    (s.runTo limit).Mends time := by
  fun_induction runTo s limit with
  | case1 s hd => exact h
  | case2 s due hd hle ih =>
    obtain ⟨hf, hw, hq, hh⟩ := h
    obtain ⟨hq', hh'⟩ := act_heals hf hw hq hh
    exact ih ⟨fits_act hf, atWork_act hw, hq', hh'⟩
  | case3 s due hd hle => exact h

theorem advances_mends (times : List Nat) {s : Supervisor} {time : Nat} (h : s.Mends time) :
    ((times.map Step.advance).foldl perform s).Mends time ∧
      ((times.map Step.advance).foldl perform s).now = s.now + times.sum := by
  induction times generalizing s with
  | nil => exact ⟨h, rfl⟩
  | cons t times ih =>
    obtain ⟨hf, hw, hq, hh⟩ := runTo_mends (s.now + t) h
    have hn : (s.runTo (s.now + t)).now ≤ s.now + t := now_runTo_le (Nat.le_add_right _ _)
    have hm : (s.advance t).Mends time := ⟨hf, hw.later hn, hq, hh⟩
    obtain ⟨hm', hn'⟩ := ih hm
    refine ⟨hm', hn'.trans ?_⟩
    rw [List.sum_cons, ← Nat.add_assoc]
    rfl

/-- A supervisor that heals by a time serves a session when nothing is due up to then. -/
theorem Heals.serving {s : Supervisor} {time : Nat} (h : s.Heals time)
    (hd : ∀ due, s.due? = some due → time < due) : ∃ id, s.Serving id := by
  obtain hs | hh := h
  · exact hs
  · -- what is due later cannot be what healing waits for
    unfold due? at hd
    cases hp : s.phase with
    | watching due =>
      simp only [hp, Option.some.injEq, forall_eq'] at hd hh
      omega
    | building p =>
      simp only [hp, Option.some.injEq, forall_eq'] at hd hh
      split at hh <;> omega
    | crashed => simp only [hp] at hh
    | stopped => simp only [hp] at hh

/-- Whoever advances the clock to the time of healing finds a session served. -/
theorem advances_serving {times : List Nat} {s : Supervisor} (h : s.Mends (s.now + times.sum))
    (ht : times ≠ []) :
    ((times.map Step.advance).foldl perform s).Quiet ∧
      ∃ id, ((times.map Step.advance).foldl perform s).Serving id := by
  obtain ⟨times, t, rfl⟩ := (List.eq_nil_or_concat times).resolve_left ht
  rw [List.concat_eq_append] at h ⊢
  rw [List.map_append, List.foldl_append]
  obtain ⟨hm, hn⟩ := advances_mends times h
  generalize (times.map Step.advance).foldl perform s = s' at hm hn
  obtain ⟨-, -, hq, hh⟩ := runTo_mends (s'.now + t) hm
  rw [List.sum_append, List.sum_singleton, ← Nat.add_assoc, ← hn] at hh
  exact ⟨hq, hh.serving (s'.lt_due_runTo _)⟩

/-! ## Peace behind it -/

theorem act_serving {s : Supervisor} {id : Nat} (hq : s.Quiet) (hs : s.Serving id) :
    s.act.Quiet ∧ s.act.Serving id ∧ s.Unchanged s.act := by
  obtain ⟨hs, ⟨hc, deadline, hp⟩ | hp⟩ := hs
  · rw [act_watching hp]
    exact check_serving (s := { s with now := deadline.ticks }) deadline hq hs hc
  · simp only [act, hp]
    exact ⟨hq, ⟨hs, Or.inr hp⟩, .refl s⟩

theorem runTo_unchanged {s : Supervisor} {id : Nat} (limit : Nat) (hq : s.Quiet)
    (hs : s.Serving id) :
    (s.runTo limit).Quiet ∧ (s.runTo limit).Serving id ∧ s.Unchanged (s.runTo limit) := by
  fun_induction runTo s limit with
  | case1 s hd => exact ⟨hq, hs, .refl s⟩
  | case2 s due hd hle ih =>
    obtain ⟨hq', hs', hu⟩ := act_serving hq hs
    obtain ⟨hq'', hs'', hu'⟩ := ih hq' hs'
    exact ⟨hq'', hs'', hu.trans hu'⟩
  | case3 s due hd hle => exact ⟨hq, hs, .refl s⟩

/-- As long as only time passes, the session that is served stays in its place. -/
theorem advances_unchanged (times : List Nat) {s : Supervisor} {id : Nat} (hq : s.Quiet)
    (hs : s.Serving id) :
    s.Unchanged ((times.map Step.advance).foldl perform s) := by
  induction times generalizing s with
  | nil => exact .refl s
  | cons time times ih =>
    obtain ⟨hq', hs', hu⟩ := runTo_unchanged (s.now + time) hq hs
    exact Unchanged.trans hu (ih (s := s.advance time) hq' hs')

/-! ## From wherever it waits -/

/-- How long the call of the key source that is under way still takes. -/
def callWait (s : Supervisor) : Nat :=
  match s.phase with
  | .building p =>
    match p.stage with
    | .asking _ => p.due - s.now
    | .resting => 0
  | _ => 0

/-- A supervisor at work heals within one interval between checks, or within the call that is under
way and one rest behind it. -/
theorem AtWork.heals {s : Supervisor} {time : Nat} (h : s.AtWork)
    (hi : s.setup.interval.isZero = false) (hc : (s.now + time) / 1000 < clockSeconds)
    (hp : s.setup.interval.nanos ≤ time * 1000000)
    (hr : s.callWait * 1000000 + s.setup.retry.nanos ≤ time * 1000000) :
    s.Heals (s.now + time) := by
  refine Or.inr ?_
  have hz : s.setup.interval.nanos ≠ 0 := by
    simpa [Time.Span.isZero] using hi
  unfold AtWork at h
  unfold callWait at hr
  cases hph : s.phase with
  | watching deadline =>
    simp only [hph] at h ⊢
    have hperiod : s.setup.period.nanos ≤ time * 1000000 := by
      unfold Setup.period
      dsimp only
      omega
    calc deadline.ticks
      _ ≤ (Time.Span.ofMillis (s.now + time)).ticks := by
        refine Time.Span.ticks_mono ?_
        rw [Time.Span.nanos_ofMillis]
        omega
      _ = s.now + time := Time.Span.ticks_ofMillis _
  | building p =>
    simp only [hph] at h hr ⊢
    have hticks := s.setup.retry.ticks_lt_nanos
    cases hst : p.stage with
    | resting =>
      simp only [hst, true_implies] at h hr ⊢
      omega
    | asking result =>
      simp only [hst] at hr ⊢
      cases result with
      | error e =>
        dsimp only
        omega
      | ok key =>
        dsimp only
        omega
  | crashed =>
    simp only [hph, Setup.firstCheck?, hi, Bool.false_eq_true, if_false] at h
    split at h
    · omega
    · cases h
  | stopped => simp only [hph] at h

end Supervisor

/-- From every settled point of a run at which no fault is left to come, it takes one interval
between checks, or the rest of the call under way and one retry span, whichever is longer, until a
session is in service; and as long as only time passes it is never replaced. The clock has to hold
the time that it is advanced to. -/
theorem self_healing (l : Launch) (steps : List Step) (times more : List Nat)
    (hl : l.start.2 = .running) (hs : Step.shutdown ∉ steps)
    (hi : l.setup.interval.isZero = false) (hq : (l.run steps).Quiet)
    (hp : l.setup.interval.nanos ≤ times.sum * 1000000)
    (hr : (l.run steps).callWait * 1000000 + l.setup.retry.nanos ≤ times.sum * 1000000)
    (hc : ((l.run steps).now + times.sum) / 1000 < clockSeconds) :
    let s := l.run (steps ++ times.map .advance)
    let s' := l.run (steps ++ (times ++ more).map .advance)
    s.state = .connected ∧ (∃ slot, s.slot = some slot ∧ s.net.isOpen slot.session = true) ∧
      s'.slot = s.slot ∧ s'.generation = s.generation ∧
      s'.net.sessions.length = s.net.sessions.length := by
  intro s s'
  have ht : times ≠ [] := by
    rintro rfl
    rw [List.sum_nil, Nat.zero_mul, Nat.le_zero] at hp
    simp [Time.Span.isZero, hp] at hi
  have hw := atWork_run hl hs
  rw [← setup_run hl steps] at hi hp hr
  have hm : (l.run steps).Mends ((l.run steps).now + times.sum) :=
    ⟨fits_run l steps, hw, hq, hw.heals hi hc hp hr⟩
  have hrun : s = (times.map Step.advance).foldl Supervisor.perform (l.run steps) :=
    run_append l steps _
  have hrun' : s' = (more.map Step.advance).foldl Supervisor.perform s := by
    rw [← run_append, List.append_assoc, ← List.map_append]
  obtain ⟨hq', id, hsv⟩ := Supervisor.advances_serving hm ht
  rw [← hrun] at hq' hsv
  rw [hrun']
  obtain ⟨hst, hsl, -, ho⟩ := hsv.1
  exact ⟨hst, ⟨_, hsl, ho⟩, Supervisor.advances_unchanged more hq' hsv⟩

/-- Someone closes the session of a plain launch; two advances later another is in service. -/
theorem self_healing_plain :
    (Launch.plain.run [.close 1]).net.isOpen 1 = false ∧
      (Launch.plain.run [.close 1, .advance 3000, .advance 2000]).state = .connected := by
  have h : (Launch.plain.run [.close 1]).net.isOpen 1 = false ∧
      (Launch.plain.run [.close 1]).Quiet ∧ (Launch.plain.run [.close 1]).callWait = 0 ∧
      (Launch.plain.run [.close 1]).now = 0 := by
    unfold Launch.run Launch.start Supervisor.start
    rw [Source.obtain_of_result rfl (Nat.zero_le _)]
    refine ⟨rfl, ⟨⟨?_, rfl, rfl⟩, prompt_of_spent (Nat.zero_le _)⟩, rfl, rfl⟩
    intro o h
    exact absurd h List.not_mem_nil
  obtain ⟨ho, hq, hw, hn⟩ := h
  refine ⟨ho, ?_⟩
  exact (self_healing .plain [.close 1] [3000, 2000] [] running_plain (by decide) (by decide) hq
    (by decide) (by rw [hw]; decide) (by rw [hn]; decide)).1

end Tether.Agent
