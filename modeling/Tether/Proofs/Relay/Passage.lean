import Mathlib.Data.List.Basic
import Tether.Relay.Copy

/-!
One direction of a relay between streams of any kind. Of the streams only this is taken for
granted: a read brings no more than one chunk, a write takes no more than it was offered, and
nothing breaks the copy. When they answer, with how much and with which fault is left open.

A passage is a copy with the books on it: the chunks that the source gave and the bytes that the
sink took. `Passage.Tries` is one attempt of the copy with its outcome. At every moment either all
that was taken was delivered and counted, or one chunk is at hand of which a front was delivered
and nothing counted (`Passage.Kept`); every attempt keeps it so (`Kept.tries`), and cancelling does
(`Kept.cancel`). Hence the count is the total size of the chunks that were written completely
(`Kept.balances`), and an attempt to read that ends the copy leaves nothing behind (`Tries.whole`).
-/

namespace Tether.Relay

open Tether.Net

/-! ## Outcomes of attempts -/

/-- A read brings no more than one chunk and breaks nobody. -/
def ReadOutcome.Fair : ReadOutcome → Prop
  | .bytes bs => bs.length ≤ chunkSize
  | .failed _ | .waits => True
  | .crashes => False

/-- The chunk that a read brings, if it brings any byte. -/
def ReadOutcome.chunk : ReadOutcome → List (List UInt8)
  | .bytes [] => []
  | .bytes (b :: bs) => [b :: bs]
  | .failed _ | .waits | .crashes => []

/-- A read ends the copy: the source has come to its end, or reading fails. -/
def ReadOutcome.Ends (r : ReadOutcome) : Prop := r = .bytes [] ∨ ∃ fault, r = .failed fault

/-- A write takes no more than it was offered and breaks nobody. -/
def WriteOutcome.Fair (offered : List UInt8) : WriteOutcome → Prop
  | .took n => n ≤ offered.length
  | .failed _ | .waits => True
  | .crashes => False

/-- The number of bytes that a write takes. -/
def WriteOutcome.count : WriteOutcome → Nat
  | .took n => n
  | .failed _ | .waits | .crashes => 0

/-- An attempt of a copy, by its outcome. -/
inductive Attempt
  | read (outcome : ReadOutcome)
  | write (outcome : WriteOutcome)
  deriving DecidableEq, Repr

/-! ## Chunks -/

/-- The chunks that lie wholly within the first so many bytes. -/
def complete : List (List UInt8) → Nat → List (List UInt8)
  | [], _ => []
  | c :: cs, n => if c.length ≤ n then c :: complete cs (n - c.length) else []

theorem complete_append (whole rest : List (List UInt8)) (n : Nat) :
    complete (whole ++ rest) (whole.flatten.length + n) = whole ++ complete rest n := by
  induction whole with
  | nil => simp
  | cons c cs ih =>
    have hle : c.length ≤ (c :: cs).flatten.length + n := by
      rw [List.flatten_cons, List.length_append]
      omega
    have hrest : (c :: cs).flatten.length + n - c.length = cs.flatten.length + n := by
      rw [List.flatten_cons, List.length_append]
      omega
    rw [List.cons_append, complete, if_pos hle, hrest, ih, List.cons_append]

theorem complete_flatten (whole : List (List UInt8)) :
    complete whole whole.flatten.length = whole := by
  simpa [complete] using complete_append whole [] 0

/-- A chunk of which the last byte is missing is not complete. -/
theorem complete_front {front left : List UInt8} (h : left ≠ []) :
    complete [front ++ left] front.length = [] := by
  have hpos : 0 < left.length := List.length_pos_iff.2 h
  have hlt : ¬(front ++ left).length ≤ front.length := by
    rw [List.length_append]
    omega
  rw [complete, if_neg hlt]

/-! ## Passages -/

/-- One direction of a relay, with the books on it. -/
structure Passage where
  copy : Copy
  /-- The chunks that the source gave, in order. -/
  chunks : List (List UInt8)
  /-- The bytes that the sink took, in order. -/
  delivered : List UInt8
  deriving DecidableEq, Repr

namespace Passage

/-- A passage on which nothing was moved yet. -/
def fresh : Passage := ⟨.fresh, [], []⟩

/-- All bytes that the source gave. -/
def taken (p : Passage) : List UInt8 := p.chunks.flatten

/-- Cancels the copy if it still goes on. -/
def cancel (p : Passage) : Passage := { p with copy := p.copy.cancel }

theorem cancel_of_over {p : Passage} (h : p.copy.isAlive = false) : p.cancel = p := by
  rw [cancel, Copy.cancel, h]
  rfl

/-- The copy makes an attempt, which comes out so. -/
inductive Tries : Passage → Attempt → Passage → Prop
  | read {total : Nat} {chunks : List (List UInt8)} {delivered : List UInt8} {r : ReadOutcome} :
      r.Fair → Tries ⟨⟨.reading, total⟩, chunks, delivered⟩ (.read r)
        ⟨Copy.onRead ⟨.reading, total⟩ r, chunks ++ r.chunk, delivered⟩
  | write {left : List UInt8} {size total : Nat} {chunks : List (List UInt8)}
      {delivered : List UInt8} {w : WriteOutcome} :
      w.Fair left → Tries ⟨⟨.writing left size, total⟩, chunks, delivered⟩ (.write w)
        ⟨Copy.onWrite ⟨.writing left size, total⟩ left size w, chunks,
          delivered ++ left.take w.count⟩

/-- A row of attempts. -/
inductive Row : Passage → List Attempt → Passage → Prop
  | refl {p : Passage} : Row p [] p
  | head {p m p' : Passage} {a : Attempt} {as : List Attempt} :
      Tries p a m → Row m as p' → Row p (a :: as) p'

theorem Tries.alive {p p' : Passage} {a : Attempt} (h : Tries p a p') :
    p.copy.isAlive = true := by
  cases h <;> rfl

theorem Row.single {p p' : Passage} {a : Attempt} (h : Tries p a p') : Row p [a] p' :=
  .head h .refl

theorem Row.trans {p m p' : Passage} {as bs : List Attempt} (h : Row p as m) (h' : Row m bs p') :
    Row p (as ++ bs) p' := by
  induction h with
  | refl => exact h'
  | head ht _ ih => exact .head ht (ih h')

/-! ## The books -/

/-- The books of a passage. -/
inductive Kept : Passage → Prop
  /-- No chunk is at hand: all that was taken was delivered and counted. -/
  | clear {stage : CopyStage} {whole : List (List UInt8)} :
      (stage = .reading ∨ ∃ fault, stage = .ended fault) →
      Kept ⟨⟨stage, whole.flatten.length⟩, whole, whole.flatten⟩
  /-- Of the chunk at hand a front was delivered, and nothing was counted. -/
  | amid {stage : CopyStage} {whole : List (List UInt8)} {front left : List UInt8} :
      (stage = .writing left (front ++ left).length ∨ ∃ fault, stage = .ended fault) →
      left ≠ [] → (front ++ left).length ≤ chunkSize →
      Kept ⟨⟨stage, whole.flatten.length⟩, whole ++ [front ++ left], whole.flatten ++ front⟩

/-- The books and a count agree. -/
structure Balances (p : Passage) (count : Nat) : Prop where
  /-- The count is the total size of the chunks that were written completely. -/
  counted : count = (complete p.chunks p.delivered.length).flatten.length
  /-- The sink got what the source gave, in order and from the first byte on. -/
  front : p.delivered <+: p.taken
  le_delivered : count ≤ p.delivered.length
  delivered_le : p.delivered.length ≤ p.taken.length
  /-- What was delivered and not counted is less than a chunk. -/
  uncounted_lt : p.delivered.length - count < chunkSize

theorem kept_fresh : Kept fresh := by
  have h : Kept ⟨⟨.reading, [].flatten.length⟩, [], [].flatten⟩ := .clear (.inl rfl)
  exact h

namespace Kept

variable {p p' : Passage}

/-- The outcome of a read keeps the books. -/
theorem read {whole : List (List UInt8)} {r : ReadOutcome} (hr : r.Fair) :
    Kept ⟨Copy.onRead ⟨.reading, whole.flatten.length⟩ r, whole ++ r.chunk, whole.flatten⟩ := by
  have hstay (stage : CopyStage) (hs : stage = .reading ∨ ∃ fault, stage = .ended fault) :
      Kept ⟨⟨stage, whole.flatten.length⟩, whole ++ [], whole.flatten⟩ := by
    rw [List.append_nil]
    exact .clear hs
  cases r with
  | bytes bs =>
    cases bs with
    | nil => exact hstay _ (.inr ⟨none, rfl⟩)
    | cons b bs =>
      have hk : Kept ⟨⟨.writing (b :: bs) ([] ++ b :: bs).length, whole.flatten.length⟩,
          whole ++ [[] ++ b :: bs], whole.flatten ++ []⟩ :=
        .amid (.inl rfl) (List.cons_ne_nil b bs) hr
      rwa [List.append_nil] at hk
  | failed fault => exact hstay _ (.inr ⟨some fault, rfl⟩)
  | waits => exact hstay _ (.inl rfl)
  | crashes => exact hr.elim

/-- The outcome of a write keeps the books: with its last byte a chunk is counted, and before that
the front that was delivered grows. -/
theorem write {whole : List (List UInt8)} {front left : List UInt8} {w : WriteOutcome}
    (hleft : left ≠ []) (hsize : (front ++ left).length ≤ chunkSize) (hw : w.Fair left) :
    Kept ⟨Copy.onWrite ⟨.writing left (front ++ left).length, whole.flatten.length⟩ left
        (front ++ left).length w, whole ++ [front ++ left],
      whole.flatten ++ front ++ left.take w.count⟩ := by
  have hstay (stage : CopyStage)
      (hs : stage = .writing left (front ++ left).length ∨ ∃ fault, stage = .ended fault) :
      Kept ⟨⟨stage, whole.flatten.length⟩, whole ++ [front ++ left],
        whole.flatten ++ front ++ left.take 0⟩ := by
    rw [List.take_zero, List.append_nil]
    exact .amid hs hleft hsize
  cases w with
  | took n =>
    by_cases hle : left.length ≤ n
    · -- the chunk is complete now
      have hk : Kept ⟨⟨.reading, (whole ++ [front ++ left]).flatten.length⟩,
          whole ++ [front ++ left], (whole ++ [front ++ left]).flatten⟩ := .clear (.inl rfl)
      have hf : (whole ++ [front ++ left]).flatten = whole.flatten ++ front ++ left := by simp
      rw [Copy.onWrite, if_pos hle, WriteOutcome.count, List.take_of_length_le hle, ← hf]
      rwa [hf, List.append_assoc, List.length_append, ← List.append_assoc, ← hf] at hk
    · rw [Copy.onWrite, if_neg hle, WriteOutcome.count]
      by_cases hz : n = 0
      · subst hz
        rw [if_pos rfl]
        exact hstay _ (.inr ⟨_, rfl⟩)
      · rw [if_neg hz]
        have hsplit : front ++ left = front ++ left.take n ++ left.drop n := by
          rw [List.append_assoc, List.take_append_drop]
        have hdrop : left.drop n ≠ [] := by
          rw [ne_eq, List.drop_eq_nil_iff]
          exact hle
        rw [hsplit] at hsize ⊢
        rw [List.append_assoc whole.flatten]
        exact .amid (.inl rfl) hdrop hsize
  | failed fault =>
    rw [Copy.onWrite]
    split
    · exact hstay _ (.inl rfl)
    · exact hstay _ (.inr ⟨some fault, rfl⟩)
  | waits => exact hstay _ (.inl rfl)
  | crashes => exact hw.elim

/-- Every attempt keeps the books. -/
theorem tries {a : Attempt} (h : Kept p) (ht : Tries p a p') : Kept p' := by
  cases ht with
  | read hr =>
    cases h with
    | clear _ => exact read hr
    | amid hs _ _ =>
      rcases hs with hs | ⟨fault, hs⟩ <;> cases hs
  | write hw =>
    cases h with
    | clear hs =>
      rcases hs with hs | ⟨fault, hs⟩ <;> cases hs
    | amid hs hleft hsize =>
      rcases hs with hs | ⟨fault, hs⟩
      · cases hs
        exact write hleft hsize hw
      · cases hs

theorem cancel (h : Kept p) : Kept p.cancel := by
  unfold Passage.cancel Copy.cancel
  split
  · cases h with
    | clear _ => exact .clear (.inr ⟨none, rfl⟩)
    | amid _ hleft hsize => exact .amid (.inr ⟨none, rfl⟩) hleft hsize
  · exact h

/-- A copy whose books are kept did not break, so that its count is reported as it stands. -/
theorem counted (h : Kept p) : p.copy.counted = p.copy.total := by
  have hs : p.copy.stage ≠ .crashed := by
    cases h with
    | clear hs => rcases hs with rfl | ⟨fault, rfl⟩ <;> simp
    | amid hs _ _ => rcases hs with rfl | ⟨fault, rfl⟩ <;> simp
  rw [Copy.counted, if_neg hs]

theorem balances (h : Kept p) : p.Balances p.copy.total := by
  cases h with
  | @clear stage whole _ =>
    refine ⟨?_, List.prefix_refl _, Nat.le_refl _, Nat.le_refl _, ?_⟩
    · show whole.flatten.length = (complete whole whole.flatten.length).flatten.length
      rw [complete_flatten]
    · show whole.flatten.length - whole.flatten.length < chunkSize
      rw [Nat.sub_self]
      decide
  | @amid stage whole front left _ hleft hsize =>
    have hpos : 0 < left.length := List.length_pos_iff.2 hleft
    have hlen : (whole.flatten ++ front).length = whole.flatten.length + front.length :=
      List.length_append
    have htaken : taken ⟨⟨stage, whole.flatten.length⟩, whole ++ [front ++ left],
        whole.flatten ++ front⟩ = whole.flatten ++ front ++ left := by simp [taken]
    have hfront : whole.flatten ++ front <+: whole.flatten ++ front ++ left :=
      List.prefix_append _ _
    rw [List.length_append] at hsize
    constructor
    · show whole.flatten.length =
        (complete (whole ++ [front ++ left]) (whole.flatten ++ front).length).flatten.length
      rw [hlen, complete_append, complete_front hleft, List.append_nil]
    · rwa [htaken]
    · show whole.flatten.length ≤ (whole.flatten ++ front).length
      omega
    · rw [htaken]
      exact hfront.length_le
    · show (whole.flatten ++ front).length - whole.flatten.length < chunkSize
      omega

end Kept

/-- A read that ends the copy leaves nothing behind: all that was taken was delivered and
counted. -/
theorem Tries.whole {p p' : Passage} {r : ReadOutcome} (h : Tries p (.read r) p') (hk : Kept p)
    (hr : r.Ends) :
    p'.copy.isAlive = false ∧ p'.delivered = p'.taken ∧ p'.copy.total = p'.delivered.length := by
  cases h with
  | read _ =>
    cases hk with
    | clear _ =>
      rcases hr with rfl | ⟨fault, rfl⟩
      · exact ⟨rfl, by simp [taken, ReadOutcome.chunk], rfl⟩
      · exact ⟨rfl, by simp [taken, ReadOutcome.chunk], rfl⟩
    | amid hs _ _ =>
      rcases hs with hs | ⟨fault, hs⟩ <;> cases hs

end Passage

end Tether.Relay
