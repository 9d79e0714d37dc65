import Mathlib.Algebra.BigOperators.Intervals
import Mathlib.Algebra.Order.BigOperators.Group.Finset
import Mathlib.Order.Interval.Finset.Nat
import Tether.Control.Source

/-!
When calls for keys are made. Several pursuits share one source, one round after another, each with
a time limit. A round asks at once, and again a rest behind every call that fails, so the time of
each of its calls is known beforehand (`Source.callTime`), and so is the time at which it has its
key (`Source.answerTime`): `round_timetable`. A round that is given up has made the calls that came
in time, and the next round goes on with the call that follows.
-/

namespace Tether.Control

open Tether.Text Tether.Time

namespace Source

/-- The text that a call brings for a key, if it brings one. -/
def offer? (s : Source) (call : Nat) : Option String :=
  match (s.reply call).outcome with
  | .numbered => some ("key-" ++ toString call)
  | .key text => some text
  | .fail _ => none

/-- The call of a number is the first behind another that brings a key: every text before it is
blank. -/
structure FirstKey (s : Source) (before call : Nat) (key : Key) : Prop where
  behind : before < call
  barren : ∀ i, before < i → i < call → ∀ text, s.offer? i = some text → isBlank text = true
  brings : s.offer? call = some key.text

/-- When the call of a number starts in a round that starts at a time behind some calls: each of
the calls between took its delay, and a rest followed it. -/
def callTime (s : Source) (retry : Span) (start before call : Nat) : Nat :=
  start + ∑ j ∈ Finset.Ioo before call, ((s.reply j).delay + retry.ticks)

/-- When the call of a number is answered in such a round: there are as many delays as calls, and
one rest less. -/
def answerTime (s : Source) (retry : Span) (start before call : Nat) : Nat :=
  start + ∑ j ∈ Finset.Ioc before call, (s.reply j).delay + (call - before - 1) * retry.ticks

/-- When the calls of such a round start, up to that of a number. -/
def timetable (s : Source) (retry : Span) (start before call : Nat) : List Nat :=
  (List.range' (before + 1) (call - before)).map (s.callTime retry start before)

/-- The source when a round has made its calls up to that of a number. -/
def upTo (s : Source) (retry : Span) (start call : Nat) : Source :=
  { s with times := s.times ++ s.timetable retry start s.calls call }

variable {s : Source} {retry : Span} {start before call : Nat}

/-! ## The first key -/

theorem result_eq_ok_iff {key : Key} : s.result call = .ok key ↔ s.offer? call = some key.text := by
  unfold result offer?
  cases (s.reply call).outcome with
  | numbered =>
    simp only [Except.ok.injEq, Option.some.injEq]
    constructor
    · rintro rfl
      rfl
    · intro h
      cases key
      subst h
      rfl
  | key text =>
    rw [Key.ofText_eq_ok_iff, Option.some.injEq, eq_comm]
  | fail e => simp

theorem exists_error_iff :
    (∃ e, s.result call = .error e) ↔ ∀ text, s.offer? call = some text → isBlank text = true := by
  unfold result offer?
  cases (s.reply call).outcome with
  | numbered =>
    have hink := numbered_notBlank call
    constructor
    · rintro ⟨e, h⟩
      cases h
    · intro h
      rw [h _ rfl] at hink
      cases hink
  | key text => simp [Key.ofText_eq_error_iff]
  | fail e => simp

/-- A key comes at the latest behind the script. -/
theorem exists_firstKey (s : Source) (before : Nat) : ∃ call key, s.FirstKey before call key := by
  have hscript : ∃ call, before < call ∧ ∃ key, s.result call = .ok key := by
    refine ⟨before + s.script.length + 1, by omega, ?_⟩
    have hreply : s.reply (before + s.script.length + 1) = ⟨0, .numbered⟩ :=
      reply_of_le (by omega)
    unfold result
    rw [hreply]
    exact ⟨_, rfl⟩
  classical
  obtain ⟨hbehind, key, hkey⟩ := Nat.find_spec hscript
  refine ⟨Nat.find hscript, key, hbehind, ?_, result_eq_ok_iff.1 hkey⟩
  intro i hi hlt
  have hnone := Nat.find_min hscript hlt
  rw [← exists_error_iff]
  cases hr : s.result i with
  | ok key => exact absurd ⟨hi, key, hr⟩ hnone
  | error e => exact ⟨e, rfl⟩

/-! ## Times -/

theorem callTime_first : s.callTime retry start before (before + 1) = start := by
  have hnone : Finset.Ioo before (before + 1) = ∅ := by
    ext j
    simp only [Finset.mem_Ioo, Finset.notMem_empty, iff_false]
    omega
  rw [callTime, hnone, Finset.sum_empty, Nat.add_zero]

/-- From one call to the next it takes the delay of the one and a rest. -/
theorem callTime_succ (h : before < call) :
    s.callTime retry start before (call + 1) =
      s.callTime retry start before call + (s.reply call).delay + retry.ticks := by
  rw [callTime, callTime, Finset.Ioo_add_one_right_eq_Ioc, ← Finset.sum_Ioo_add_eq_sum_Ioc h]
  omega

theorem callTime_mono (s : Source) (retry : Span) (start before : Nat) {i j : Nat} (h : i ≤ j) :
    s.callTime retry start before i ≤ s.callTime retry start before j := by
  apply Nat.add_le_add_left
  apply Finset.sum_le_sum_of_subset
  exact Finset.Ioo_subset_Ioo_right h

theorem answerTime_eq (h : before < call) :
    s.answerTime retry start before call =
      s.callTime retry start before call + (s.reply call).delay := by
  have hrests : ∑ _j ∈ Finset.Ioo before call, retry.ticks = (call - before - 1) * retry.ticks := by
    rw [Finset.sum_const_nat fun _ _ => rfl, Nat.card_Ioo]
  rw [answerTime, callTime, ← Finset.sum_Ioo_add_eq_sum_Ioc h, Finset.sum_add_distrib, hrests]
  omega

theorem timetable_succ (h : before ≤ call) :
    s.timetable retry start before (call + 1) =
      s.timetable retry start before call ++ [s.callTime retry start before (call + 1)] := by
  have hlen : call + 1 - before = call - before + 1 := by omega
  have hlast : before + 1 + (call - before) = call + 1 := by omega
  rw [timetable, hlen, List.range'_1_concat, List.map_append, hlast]
  rfl

theorem calls_upTo (h : s.calls ≤ call) : (s.upTo retry start call).calls = call := by
  simp only [calls, upTo, timetable, List.length_append, List.length_map, List.length_range'] at *
  omega

/-- The next call of a round is made in its time. -/
theorem ask_upTo (h : s.calls ≤ call) (attempt : Nat) :
    (s.upTo retry start call).ask (s.callTime retry start s.calls (call + 1)) attempt =
      (s.upTo retry start (call + 1),
        ⟨attempt, s.callTime retry start s.calls (call + 1) + (s.reply (call + 1)).delay,
          .asking (s.result (call + 1))⟩) := by
  unfold ask
  rw [calls_upTo h]
  unfold upTo
  rw [timetable_succ h, List.append_assoc]
  rfl

end Source

/-! ## One round -/

namespace Pursuit

open Source

variable {s source : Source} {retry : Span} {start deadline last : Nat} {key : Key} {p : Pursuit}

/-- A round has made its calls up to one of them, all in time, and waits for the answer to that one
or for the time of the next. -/
inductive OnTime (s : Source) (retry : Span) (start deadline last : Nat) :
    Pursuit → Source → Prop
  | asking {attempt call : Nat} (hfirst : s.calls < call) (hlast : call ≤ last)
      (htime : s.callTime retry start s.calls call ≤ deadline) :
      OnTime s retry start deadline last
        ⟨attempt, s.callTime retry start s.calls call + (s.reply call).delay,
          .asking (s.result call)⟩
        (s.upTo retry start call)
  | resting {attempt call : Nat} (hfirst : s.calls < call) (hlast : call < last)
      (htime : s.callTime retry start s.calls call ≤ deadline) :
      OnTime s retry start deadline last
        ⟨attempt, s.callTime retry start s.calls (call + 1), .resting⟩ (s.upTo retry start call)

/-- A round ends with the first key, when the call for it is answered, or it is given up behind the
calls whose time had come. -/
inductive Ends (s : Source) (retry : Span) (start deadline last : Nat) (key : Key) : Run → Prop
  | got {log : List Entry} (h : s.answerTime retry start s.calls last ≤ deadline) :
      Ends s retry start deadline last key
        ⟨s.upTo retry start last, .got key, s.answerTime retry start s.calls last, log⟩
  | left {call : Nat} {p : Pursuit} {log : List Entry} (hfirst : s.calls < call)
      (hlast : call ≤ last) (htime : s.callTime retry start s.calls call ≤ deadline)
      (hnext : call < last → deadline < s.callTime retry start s.calls (call + 1))
      (h : deadline < s.answerTime retry start s.calls last) :
      Ends s retry start deadline last key
        ⟨s.upTo retry start call, .pursuing p, deadline, log⟩

/-- A round that goes on has its key, or is on time again. -/
theorem OnTime.act (h : p.OnTime s retry start deadline last source) (hdue : p.due ≤ deadline)
    (hkey : s.FirstKey s.calls last key) :
    (p.act source retry).2.1 = .got key ∧ p.due = s.answerTime retry start s.calls last ∧
        (p.act source retry).1 = s.upTo retry start last ∨
      ∃ p', (p.act source retry).2.1 = .pursuing p' ∧
        p'.OnTime s retry start deadline last (p.act source retry).1 := by
  cases h with
  | @asking attempt call hfirst hlast htime =>
    by_cases hcall : call = last
    · subst hcall
      left
      have hresult := result_eq_ok_iff.2 hkey.brings
      unfold Pursuit.act
      dsimp only
      rw [hresult]
      exact ⟨rfl, (answerTime_eq hfirst).symm, rfl⟩
    · -- the call fails, since the first key comes later
      right
      have hlt : call < last := Nat.lt_of_le_of_ne hlast hcall
      obtain ⟨e, he⟩ := exists_error_iff.2 (hkey.barren call hfirst hlt)
      unfold Pursuit.act
      dsimp only
      rw [he]
      refine ⟨_, rfl, ?_⟩
      dsimp only
      rw [← callTime_succ hfirst]
      exact .resting hfirst hlt htime
  | @resting attempt call hfirst hlast htime =>
    right
    unfold Pursuit.act
    dsimp only
    rw [ask_upTo (Nat.le_of_lt hfirst)]
    exact ⟨_, rfl, .asking (Nat.lt_succ_of_lt hfirst) hlast hdue⟩

/-- A round that is not due in time ends without a key. -/
theorem OnTime.ends (h : p.OnTime s retry start deadline last source) (hdue : deadline < p.due)
    (log : List Entry) :
    Ends s retry start deadline last key ⟨source, .pursuing p, deadline, log⟩ := by
  cases h with
  | @asking attempt call hfirst hlast htime =>
    have hnext (hlt : call < last) : deadline < s.callTime retry start s.calls (call + 1) := by
      rw [callTime_succ hfirst]
      exact Nat.lt_of_lt_of_le hdue (Nat.le_add_right _ _)
    refine .left hfirst hlast htime hnext ?_
    obtain rfl | hlt := Nat.eq_or_lt_of_le hlast
    · rwa [answerTime_eq hfirst]
    · have hmono := callTime_mono s retry start s.calls (show call + 1 ≤ last from hlt)
      rw [answerTime_eq (Nat.lt_trans hfirst hlt)]
      have := hnext hlt
      omega
  | @resting attempt call hfirst hlast htime =>
    refine .left hfirst (Nat.le_of_lt hlast) htime (fun _ => hdue) ?_
    have hmono := callTime_mono s retry start s.calls (show call + 1 ≤ last from hlast)
    rw [answerTime_eq (Nat.lt_trans hfirst hlast)]
    dsimp only at hdue
    omega

theorem OnTime.run (h : p.OnTime s retry start deadline last source)
    (hkey : s.FirstKey s.calls last key) (log : List Entry) :
    Ends s retry start deadline last key (p.run source retry deadline log) := by
  fun_induction Pursuit.run p source retry deadline log with
  | case1 p source log hle source' key' entries ha =>
    have hact := h.act hle hkey
    rw [ha] at hact
    obtain ⟨hgot, hdue, hsource⟩ | ⟨p', hp', -⟩ := hact
    · cases hgot
      dsimp only at hsource
      rw [hsource, hdue]
      rw [hdue] at hle
      exact .got hle
    · cases hp'
  | case2 p source log hle source' p' entries ha ih =>
    have hact := h.act hle hkey
    rw [ha] at hact
    obtain ⟨hgot, -⟩ | ⟨p'', hp'', hon⟩ := hact
    · cases hgot
    · cases hp''
      exact ih hon
  | case3 p source log hgt => exact h.ends (Nat.lt_of_not_le hgt) log

/-- A round makes its first call at once. -/
theorem ends_obtain (s : Source) (retry : Span) (start patience : Nat)
    (hkey : s.FirstKey s.calls last key) :
    Ends s retry start (start + patience) last key (s.obtain retry start (start + patience)) := by
  have hzero : s.upTo retry start s.calls = s := by
    rw [upTo, timetable, Nat.sub_self, List.range'_zero, List.map_nil, List.append_nil]
  have hask : (s.upTo retry start s.calls).ask
      (s.callTime retry start s.calls (s.calls + 1)) 1 = _ := ask_upTo (Nat.le_refl s.calls) 1
  rw [hzero, callTime_first] at hask
  unfold obtain
  rw [hask]
  refine OnTime.run ?_ hkey []
  have hon : OnTime s retry start (start + patience) last
      ⟨1, s.callTime retry start s.calls (s.calls + 1) + (s.reply (s.calls + 1)).delay,
        .asking (s.result (s.calls + 1))⟩ (s.upTo retry start (s.calls + 1)) := by
    refine .asking (Nat.lt_succ_self _) hkey.behind ?_
    rw [callTime_first]
    exact Nat.le_add_right _ _
  rwa [callTime_first] at hon

/-- The calls whose time has come are those up to the last of them. -/
theorem filter_timetable {call : Nat} (hfirst : s.calls < call) (hlast : call ≤ last)
    (htime : s.callTime retry start s.calls call ≤ deadline)
    (hnext : call < last → deadline < s.callTime retry start s.calls (call + 1)) :
    (s.timetable retry start s.calls last).filter (· ≤ deadline) =
      s.timetable retry start s.calls call := by
  have hsplit : s.timetable retry start s.calls last =
      s.timetable retry start s.calls call ++
        (List.range' (call + 1) (last - call)).map (s.callTime retry start s.calls) := by
    have hlen : last - s.calls = call - s.calls + (last - call) := by omega
    have hrest : s.calls + 1 + (call - s.calls) = call + 1 := by omega
    rw [timetable, timetable, hlen, ← List.range'_append_1, List.map_append, hrest]
  have hmade : ∀ t ∈ s.timetable retry start s.calls call, t ≤ deadline := by
    intro t ht
    obtain ⟨i, hi, rfl⟩ := List.mem_map.1 ht
    have hle : i ≤ call := by
      have := List.mem_range'_1.1 hi
      omega
    exact Nat.le_trans (callTime_mono s retry start s.calls hle) htime
  have hlater : ∀ t ∈ (List.range' (call + 1) (last - call)).map
      (s.callTime retry start s.calls), ¬ t ≤ deadline := by
    intro t ht
    obtain ⟨i, hi, rfl⟩ := List.mem_map.1 ht
    have hbounds := List.mem_range'_1.1 hi
    have hgt := hnext (by omega)
    have hmono := callTime_mono s retry start s.calls hbounds.1
    omega
  rw [hsplit, List.filter_append, List.filter_eq_self.2 (by simpa using hmade),
    List.filter_eq_nil_iff.2 (by simpa using hlater), List.append_nil]

end Pursuit

/-! ## Rounds -/

/-- A round begins a pause after the one before it ended, and is given up when its patience ends. -/
structure Round where
  pause : Nat
  patience : Nat
  deriving DecidableEq, Repr

namespace Source

/-- What a round comes to, if the one before it ended at this time. -/
def round (s : Source) (retry : Span) (now : Nat) (r : Round) : Pursuit.Run :=
  s.obtain retry (now + r.pause) (now + r.pause + r.patience)

/-- The source and the time behind some rounds. -/
def rounds (s : Source) (retry : Span) (now : Nat) (rs : List Round) : Source × Nat :=
  rs.foldl (fun x r => ((x.1.round retry x.2 r).source, (x.1.round retry x.2 r).now)) (s, now)

variable {s : Source} {retry : Span} {now : Nat}

theorem rounds_concat (rs : List Round) (r : Round) :
    s.rounds retry now (rs ++ [r]) =
      (((s.rounds retry now rs).1.round retry (s.rounds retry now rs).2 r).source,
        ((s.rounds retry now rs).1.round retry (s.rounds retry now rs).2 r).now) := by
  unfold rounds
  rw [List.foldl_append]
  rfl

theorem script_round (s : Source) (retry : Span) (now : Nat) (r : Round) :
    (s.round retry now r).source.script = s.script := by
  obtain ⟨last, key, hkey⟩ := s.exists_firstKey s.calls
  have hends := Pursuit.ends_obtain s retry (now + r.pause) r.patience hkey
  unfold round
  generalize s.obtain retry (now + r.pause) (now + r.pause + r.patience) = run at hends ⊢
  cases hends <;> rfl

theorem script_rounds (s : Source) (retry : Span) (now : Nat) (rs : List Round) :
    (s.rounds retry now rs).1.script = s.script := by
  induction rs using List.reverseRecOn with
  | nil => rfl
  | append_singleton rs r ih =>
    rw [rounds_concat]
    exact (script_round _ _ _ _).trans ih

/-- If no call is due at the deadline itself, the calls whose time has come are those before it. -/
theorem filter_lt_of_not_mem {table : List Nat} {deadline : Nat} (h : deadline ∉ table) :
    table.filter (· ≤ deadline) = table.filter (· < deadline) := by
  apply List.filter_congr
  intro t ht
  have hne : t ≠ deadline := by
    rintro rfl
    exact h ht
  rw [decide_eq_decide]
  omega

/-- One round, on a source that has been called before. -/
theorem obtain_timetable {b : Source} (hs : b.script = s.script) {last : Nat} {key : Key}
    (hkey : s.FirstKey b.calls last key) (retry : Span) (start patience : Nat) :
    let run := b.obtain retry start (start + patience)
    let answered := s.answerTime retry start b.calls last
    let table := s.timetable retry start b.calls last
    (answered ≤ start + patience → run.progress = .got key ∧ run.now = answered ∧
      run.source.calls = last ∧ run.source.times = b.times ++ table) ∧
    (start + patience < answered → (∃ p, run.progress = .pursuing p) ∧
      run.now = start + patience ∧
      run.source.times = b.times ++ table.filter (· ≤ start + patience)) := by
  -- the answers of the one source are those of the other
  obtain ⟨script, times⟩ := b
  cases hs
  have hfirst : FirstKey ⟨s.script, times⟩ (calls ⟨s.script, times⟩) last key :=
    ⟨hkey.behind, hkey.barren, hkey.brings⟩
  have hends := Pursuit.ends_obtain _ retry start patience hfirst
  intro run answered table
  change Pursuit.Ends _ retry start (start + patience) last key run at hends
  generalize run = run at hends
  cases hends with
  | got h =>
    refine ⟨fun _ => ⟨rfl, rfl, ?_, rfl⟩, fun hlt => absurd h (Nat.not_le_of_lt hlt)⟩
    exact calls_upTo (Nat.le_of_lt hfirst.behind)
  | left hcall hlast htime hnext h =>
    refine ⟨fun hle => absurd hle (Nat.not_le_of_lt h), fun _ => ⟨⟨_, rfl⟩, rfl, ?_⟩⟩
    exact congrArg (times ++ ·) (Pursuit.filter_timetable hcall hlast htime hnext).symm

/-- Whatever rounds came before it, a round calls the source on from the call behind theirs, each
call in its time, until there is a key or the time is over: if the call for the first key is
answered in time, the round ends then, with that key; else it ends at its deadline, and has made
the calls whose time had come. -/
theorem round_timetable (s : Source) (retry : Span) (now : Nat) (rs : List Round) (r : Round) :
    let before := (s.rounds retry now rs).1
    let start := (s.rounds retry now rs).2 + r.pause
    let deadline := start + r.patience
    let run := before.obtain retry start deadline
    s.rounds retry now (rs ++ [r]) = (run.source, run.now) ∧
    (∃ n key, s.FirstKey before.calls n key) ∧
    ∀ n key, s.FirstKey before.calls n key →
      let answered := s.answerTime retry start before.calls n
      let table := s.timetable retry start before.calls n
      (answered ≤ deadline → run.progress = .got key ∧ run.now = answered ∧
        run.source.calls = n ∧ run.source.times = before.times ++ table) ∧
      (deadline < answered → (∃ p, run.progress = .pursuing p) ∧ run.now = deadline ∧
        run.source.times = before.times ++ table.filter (· ≤ deadline) ∧
        (deadline ∉ table → run.source.times = before.times ++ table.filter (· < deadline))) := by
  intro before start deadline run
  refine ⟨rounds_concat rs r, s.exists_firstKey before.calls, ?_⟩
  intro n key hkey answered table
  have hscript : before.script = s.script := script_rounds s retry now rs
  obtain ⟨hgot, hleft⟩ := obtain_timetable hscript hkey retry start r.patience
  refine ⟨hgot, fun hlt => ?_⟩
  obtain ⟨hp, hnow, htimes⟩ := hleft hlt
  refine ⟨hp, hnow, htimes, fun hmem => ?_⟩
  rw [← filter_lt_of_not_mem hmem]
  exact htimes

/-- A source whose first call fails late, whose second brings a blank text, and whose third brings
a key. -/
def slow : Source := ofScript [⟨4, .fail (.config "down")⟩, ⟨0, .key " "⟩, ⟨2, .key "k"⟩]

theorem slow_firstKey {before : Nat} (h : before < 3) :
    slow.FirstKey before 3 ⟨"k", by decide⟩ := by
  refine ⟨h, ?_, rfl⟩
  intro i hi hlt text ht
  obtain rfl | rfl : i = 1 ∨ i = 2 := by omega
  · cases ht
  · cases ht
    decide

/-- With rests of five milliseconds, a round of twelve makes two calls of this source and is given
up; the next has the key with its first call. -/
theorem round_timetable_slow :
    (slow.rounds (.ofMillis 5) 0 [⟨0, 12⟩]).1.times = [0, 9] ∧
      (slow.rounds (.ofMillis 5) 0 [⟨0, 12⟩, ⟨1, 12⟩]).1.times = [0, 9, 13] ∧
      (slow.rounds (.ofMillis 5) 0 [⟨0, 12⟩, ⟨1, 12⟩]).2 = 15 := by
  obtain ⟨hfirst, -, hround⟩ := round_timetable slow (.ofMillis 5) 0 [] ⟨0, 12⟩
  obtain ⟨-, hnow, htimes, -⟩ := (hround 3 _ (slow_firstKey (by decide))).2 (by decide)
  have htwo : (slow.rounds (.ofMillis 5) 0 [⟨0, 12⟩]).1.times = [0, 9] := by
    rw [List.nil_append] at hfirst
    rw [hfirst]
    exact htimes.trans (by decide)
  have htime : (slow.rounds (.ofMillis 5) 0 [⟨0, 12⟩]).2 = 12 := by
    rw [List.nil_append] at hfirst
    rw [hfirst]
    exact hnow
  have hcalls : (slow.rounds (.ofMillis 5) 0 [⟨0, 12⟩]).1.calls = 2 := congrArg List.length htwo
  obtain ⟨hsecond, -, hround⟩ := round_timetable slow (.ofMillis 5) 0 [⟨0, 12⟩] ⟨1, 12⟩
  rw [htime, hcalls] at hround
  obtain ⟨-, hnow, -, htimes⟩ := (hround 3 _ (slow_firstKey (by decide))).1 (by decide)
  refine ⟨htwo, ?_, ?_⟩
  · rw [List.singleton_append, htime] at hsecond
    rw [hsecond]
    refine htimes.trans ?_
    rw [htwo]
    decide
  · rw [List.singleton_append, htime] at hsecond
    rw [hsecond]
    exact hnow.trans (by decide)

end Source

end Tether.Control
