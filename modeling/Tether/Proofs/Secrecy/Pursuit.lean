import Tether.Control.Source

/-!
Sources that differ in their keys. Two sources are alike if each call takes as long of one as of the
other, and fails of both with the same error or brings a key of both; a relation says which keys may
stand for each other. Pursuits that get their keys from such sources keep in step: they ask at the
same times, rest as long and log the same, and one has its key when the other has (`Twin.run`).
-/

namespace Tether.Control

variable {P : String → String → Prop}

/-- Two answers are the same failure, or keys of which one stands for the other. -/
inductive Agree (P : String → String → Prop) : Except Error Key → Except Error Key → Prop
  | ok {key key' : Key} (h : P key.text key'.text) : Agree P (.ok key) (.ok key')
  | error (e : Error) : Agree P (.error e) (.error e)

/-- Two sources that were called at the same times have the same delays and failures. -/
structure Source.Alike (P : String → String → Prop) (s s' : Source) : Prop where
  times : s'.times = s.times
  delay : ∀ call, (s'.reply call).delay = (s.reply call).delay
  result : ∀ call, Agree P (s.result call) (s'.result call)

/-- Two pursuits are at the same attempt and wait until the same time for the same thing. -/
inductive Pursuit.Twin (P : String → String → Prop) : Pursuit → Pursuit → Prop
  | asking {attempt due : Nat} {r r' : Except Error Key} (h : Agree P r r') :
      Twin P ⟨attempt, due, .asking r⟩ ⟨attempt, due, .asking r'⟩
  | resting {attempt due : Nat} : Twin P ⟨attempt, due, .resting⟩ ⟨attempt, due, .resting⟩

inductive Progress.Twin (P : String → String → Prop) : Progress → Progress → Prop
  | pursuing {p p' : Pursuit} (h : p.Twin P p') : Twin P (.pursuing p) (.pursuing p')
  | got {key key' : Key} (h : P key.text key'.text) : Twin P (.got key) (.got key')

theorem Source.Alike.ask {s s' : Source} (h : s.Alike P s') (now attempt : Nat) :
    (s.ask now attempt).1.Alike P (s'.ask now attempt).1 ∧
      (s.ask now attempt).2.Twin P (s'.ask now attempt).2 := by
  have hcalls : s'.calls = s.calls := congrArg List.length h.times
  refine ⟨⟨congrArg (· ++ [now]) h.times, h.delay, h.result⟩, ?_⟩
  unfold Source.ask
  dsimp only
  rw [hcalls, h.delay]
  exact .asking (h.result _)

namespace Pursuit

theorem Twin.due {p p' : Pursuit} (h : p.Twin P p') : p'.due = p.due := by
  cases h <;> rfl

theorem Twin.act {p p' : Pursuit} {s s' : Source} (h : p.Twin P p') (hs : s.Alike P s')
    (retry : Time.Span) :
    (p.act s retry).1.Alike P (p'.act s' retry).1 ∧
      (p.act s retry).2.1.Twin P (p'.act s' retry).2.1 ∧
        (p'.act s' retry).2.2 = (p.act s retry).2.2 := by
  cases h with
  | resting =>
    obtain ⟨hs, hp⟩ := hs.ask _ _
    exact ⟨hs, .pursuing hp, rfl⟩
  | asking hr =>
    cases hr with
    | ok hkey => exact ⟨hs, .got hkey, rfl⟩
    | error e => exact ⟨hs, .pursuing .resting, rfl⟩

/-! ## Up to a time limit -/

section Run

variable {p p' : Pursuit} {source source' : Source} {retry : Time.Span} {limit : Nat}
  {log entries : List Entry}

theorem run_got {key : Key} (hl : p.due ≤ limit)
    (ha : p.act source retry = (source', .got key, entries)) :
    p.run source retry limit log = ⟨source', .got key, p.due, log ++ entries⟩ := by
  rw [run, if_pos hl]
  split
  · rename_i ha'
    cases ha.symm.trans ha'
    rfl
  · rename_i ha'
    cases ha.symm.trans ha'

theorem run_pursuing (hl : p.due ≤ limit)
    (ha : p.act source retry = (source', .pursuing p', entries)) :
    p.run source retry limit log = p'.run source' retry limit (log ++ entries) := by
  rw [run, if_pos hl]
  split
  · rename_i ha'
    cases ha.symm.trans ha'
  · rename_i ha'
    cases ha.symm.trans ha'
    rfl

end Run

/-- What came of two pursuits in the same time. -/
structure Run.Twin (P : String → String → Prop) (r r' : Run) : Prop where
  source : r.source.Alike P r'.source
  progress : r.progress.Twin P r'.progress
  now : r'.now = r.now
  log : r'.log = r.log

theorem Twin.run {p p' : Pursuit} {s s' : Source} (h : p.Twin P p') (hs : s.Alike P s')
    (retry : Time.Span) (limit : Nat) (log : List Entry) :
    (p.run s retry limit log).Twin P (p'.run s' retry limit log) := by
  fun_induction Pursuit.run p s retry limit log generalizing p' s' with
  | case1 p s log hle s₁ key entries ha =>
    have hle' : p'.due ≤ limit := by rw [h.due]; exact hle
    obtain ⟨hs₁, hprogress, hlog⟩ := h.act hs retry
    rcases ha' : p'.act s' retry with ⟨s₁', progress', entries'⟩
    rw [ha, ha'] at hs₁ hprogress hlog
    cases hprogress with
    | got hkey =>
      rw [run_got hle' ha']
      exact ⟨hs₁, .got hkey, h.due, congrArg (log ++ ·) hlog⟩
  | case2 p s log hle s₁ p₁ entries ha ih =>
    have hle' : p'.due ≤ limit := by rw [h.due]; exact hle
    obtain ⟨hs₁, hprogress, hlog⟩ := h.act hs retry
    rcases ha' : p'.act s' retry with ⟨s₁', progress', entries'⟩
    rw [ha, ha'] at hs₁ hprogress hlog
    cases hprogress with
    | pursuing hp₁ =>
      rw [run_pursuing hle' ha', show entries' = entries from hlog]
      exact ih hp₁ hs₁
  | case3 p s log hle =>
    have hle' : ¬p'.due ≤ limit := by rw [h.due]; exact hle
    rw [Pursuit.run, if_neg hle']
    exact ⟨hs, .pursuing h, rfl, rfl⟩

end Pursuit

theorem Source.Alike.obtain {s s' : Source} (h : s.Alike P s') (retry : Time.Span)
    (now limit : Nat) : (s.obtain retry now limit).Twin P (s'.obtain retry now limit) :=
  (h.ask now 1).2.run (h.ask now 1).1 retry limit []

end Tether.Control
