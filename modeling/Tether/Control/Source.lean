import Tether.Control.Key
import Tether.Log
import Tether.Time.Span

/-!
Where keys come from, and how they are pursued. A source answers call after call, each after a
delay, with a key or an error; behind its script every call brings a key at once. A pursuit asks,
rests for a fixed time after every error, and asks again until it has a key. Time is counted in
milliseconds, and a pursuit always knows when it goes on next.
-/

namespace Tether.Control

open Tether.Text

/-- What one call brings. -/
inductive Outcome
  /-- A key with the number of the call. -/
  | numbered
  /-- This text as a key, if it makes one. -/
  | key (text : String)
  /-- No key. -/
  | fail (error : Error)
  deriving DecidableEq, Repr

/-- An answer in a script: how long it takes, and what it brings. -/
structure Reply where
  delay : Nat
  outcome : Outcome
  deriving DecidableEq, Repr

/-- A source of keys, by its script and the times at which it was called so far. -/
structure Source where
  script : List Reply
  times : List Nat
  deriving DecidableEq, Repr

namespace Source

/-- A source that nobody has called. -/
def ofScript (script : List Reply) : Source := ⟨script, []⟩

/-- The number of calls made so far. -/
def calls (s : Source) : Nat := s.times.length

/-- The answer to the call of a number, counted from one. -/
def reply (s : Source) (call : Nat) : Reply := s.script.getD (call - 1) ⟨0, .numbered⟩

theorem numbered_notBlank (call : Nat) : isBlank ("key-" ++ toString call) = false := by
  simp [isBlank, isBlankChar]

/-- What the call of a number brings. -/
def result (s : Source) (call : Nat) : Except Error Key :=
  match (s.reply call).outcome with
  | .numbered => .ok ⟨"key-" ++ toString call, numbered_notBlank call⟩
  | .key text => Key.ofText text
  | .fail e => .error e

/-- The answers of the script that are still to come. -/
def remaining (s : Source) : Nat := s.script.length - s.calls

/-- Behind the script every call brings a key at once. -/
theorem reply_of_le {s : Source} {call : Nat} (h : s.script.length ≤ call - 1) :
    s.reply call = ⟨0, .numbered⟩ := by
  simp [reply, List.getD, List.getElem?_eq_none h]

end Source

/-- What a pursuit waits for. -/
inductive Stage
  /-- The answer to a call, which will be this. -/
  | asking (result : Except Error Key)
  /-- The time to ask again. -/
  | resting

/-- A pursuit of a key: the number of the attempt, what it waits for, and until when. -/
structure Pursuit where
  attempt : Nat
  due : Nat
  stage : Stage

/-- Asks the source at a time, as the attempt of a number. -/
def Source.ask (s : Source) (now attempt : Nat) : Source × Pursuit :=
  let call := s.calls + 1
  ({ s with times := s.times ++ [now] },
    ⟨attempt, now + (s.reply call).delay, .asking (s.result call)⟩)

/-- Where a pursuit has come to. -/
inductive Progress
  | pursuing (pursuit : Pursuit)
  | got (key : Key)

namespace Pursuit

/-- What the log says about an attempt that failed. -/
def failedEntry (attempt : Nat) (retry : Time.Span) (e : Error) : Entry :=
  ⟨.trace, .provisioner, "Failed to get network key", [
    ("attempt", toString attempt), ("error", e.message), ("retry_in_secs", retry.secondsText)]⟩

/-- What the log says about a key that took more than one attempt. -/
def gotEntry (attempts : Nat) : Entry :=
  ⟨.debug, .provisioner, "Obtained network key after retrying", [("attempts", toString attempts)]⟩

/-- Goes on at the time a pursuit is due. -/
def act (p : Pursuit) (source : Source) (retry : Time.Span) : Source × Progress × List Entry :=
  match p.stage with
  | .resting =>
    let (source, p) := source.ask p.due (p.attempt + 1)
    (source, .pursuing p, [])
  | .asking (.ok key) =>
    (source, .got key, if 1 < p.attempt then [gotEntry p.attempt] else [])
  | .asking (.error e) =>
    (source, .pursuing { p with due := p.due + retry.ticks, stage := .resting },
      [failedEntry p.attempt retry e])

/-- A measure of what can still happen to a pursuit before it asks again. -/
def rank (p : Pursuit) : Nat :=
  match p.stage with
  | .asking (.ok _) => 0
  | .resting => 1
  | .asking (.error _) => 2

/-- A pursuit that goes on either uses up an answer of the script or comes nearer to its end. -/
theorem act_decreases {p p' : Pursuit} {source : Source} {retry : Time.Span}
    (h : (p.act source retry).2.1 = .pursuing p') :
    (p.act source retry).1.remaining < source.remaining ∨
      (p.act source retry).1.remaining = source.remaining ∧ p'.rank < p.rank := by
  unfold act at *
  split
  · rename_i hs
    simp only [hs, Source.ask] at h
    cases h
    by_cases hlt : source.calls < source.script.length
    · left; simp only [Source.ask, Source.remaining, Source.calls, List.length_append,
        List.length_singleton] at *; omega
    · right
      have hr : source.reply (source.calls + 1) = ⟨0, .numbered⟩ :=
        Source.reply_of_le (by omega)
      constructor
      · simp only [Source.ask, Source.remaining, Source.calls, List.length_append,
          List.length_singleton] at *; omega
      · simp [rank, hs, Source.result, hr]
  · rename_i hs
    simp [hs] at h
  · rename_i hs
    simp only [hs] at h
    cases h
    right
    simp [rank, hs]

/-- A pursuit never goes back in time. -/
theorem due_act {p p' : Pursuit} {source : Source} {retry : Time.Span}
    (h : (p.act source retry).2.1 = .pursuing p') : p.due ≤ p'.due := by
  unfold act at h
  split at h
  · simp only [Source.ask] at h
    cases h
    exact Nat.le_add_right _ _
  · cases h
  · cases h
    exact Nat.le_add_right _ _

/-- A pursuit has its key from the call that it waited for. -/
theorem stage_of_got {p : Pursuit} {source : Source} {retry : Time.Span} {key : Key}
    (h : (p.act source retry).2.1 = .got key) : p.stage = .asking (.ok key) := by
  unfold act at h
  split at h
  · cases h
  · rename_i hs
    cases h
    exact hs
  · cases h

/-- What a pursuit came to by a time limit. -/
structure Run where
  source : Source
  progress : Progress
  /-- When the key came, or the limit. -/
  now : Nat
  log : List Entry

/-- Goes on until there is a key or the time limit has passed; what is due at the limit itself
still happens. -/
def run (p : Pursuit) (source : Source) (retry : Time.Span) (limit : Nat) (log : List Entry) :
    Run :=
  if p.due ≤ limit then
    match _h : p.act source retry with
    | (source', .got key, entries) => ⟨source', .got key, p.due, log ++ entries⟩
    | (source', .pursuing p', entries) => run p' source' retry limit (log ++ entries)
  else ⟨source, .pursuing p, limit, log⟩
termination_by (source.remaining, p.rank)
decreasing_by
  rcases act_decreases (congrArg (fun x => x.2.1) _h) with hlt | ⟨heq, hlt⟩
  · exact Prod.Lex.left _ _ (by rw [_h] at hlt; exact hlt)
  · rw [_h] at heq
    simp only at heq
    rw [heq]
    exact Prod.Lex.right _ hlt

end Pursuit

/-- Pursues a key from a time on until a time limit. -/
def Source.obtain (s : Source) (retry : Time.Span) (now limit : Nat) : Pursuit.Run :=
  let (s, p) := s.ask now 1
  p.run s retry limit []

/-- A source whose next call brings a key in time is asked once. -/
theorem Source.obtain_of_result {s : Source} {retry : Time.Span} {now limit : Nat} {key : Key}
    (hr : s.result (s.calls + 1) = .ok key)
    (hl : now + (s.reply (s.calls + 1)).delay ≤ limit) :
    s.obtain retry now limit =
      ⟨(s.ask now 1).1, .got key, now + (s.reply (s.calls + 1)).delay, []⟩ := by
  unfold Source.obtain Source.ask
  dsimp only
  rw [Pursuit.run, if_pos hl]
  generalize s.result (s.calls + 1) = result at hr
  subst hr
  simp [Pursuit.act]

end Tether.Control
