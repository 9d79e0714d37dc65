import Tether.Proofs.Relay.Scripted

/-!
One copy on its own, which nobody cancels. Against two scripts it makes attempt after attempt, until
it has ended or its source has nothing more to say (`Passage.drive`); an attempt that has to wait is
made again. Every attempt keeps the books of `Passage`, so a copy never reads before the last chunk
is written completely (`Passage.Row.clear_of_read`), and the first attempt that brings the end or a
fault is the last one (`Passage.Row.last`). Waits change nothing of what a copy comes to
(`Passage.drive_patient`), and without them a copy between scripted streams comes to the same
(`Copy.drive_eq_copyOn`); behind its end it cancels the token and shuts its sink down
(`CopyTask.conclude_ended`). `solo_copy` says all this of every script whose reads come to an end.
-/

namespace Tether.Relay

open Tether.Net

/-! ## Attempts -/

/-- The error that occurs in an attempt. A writer that takes nothing has failed. -/
@[simp] def Attempt.error? : Attempt → Option Fault
  | .read (.failed fault) | .write (.failed fault) => some fault
  | .write (.took 0) => some .writeZero
  | _ => none

/-- A write that was interrupted is made again. -/
@[simp] def Attempt.isRetried : Attempt → Bool
  | .write (.failed fault) => fault.isInterrupted
  | _ => false

/-- The fault with which an attempt ends the copy. -/
@[simp] def Attempt.fault? (a : Attempt) : Option Fault := if a.isRetried then none else a.error?

/-- An attempt ends the copy: with a fault, or because the source has come to its end. -/
@[simp] def Attempt.isLast (a : Attempt) : Bool := a = .read (.bytes []) || a.fault?.isSome

/-- The outcome of an attempt to read. -/
@[simp] def Attempt.read? : Attempt → Option ReadOutcome
  | .read r => some r
  | .write _ => none

namespace Passage

variable {p p' : Passage} {a : Attempt} {as : List Attempt}

/-! ## Rows of attempts -/

/-- All that was read is written and counted. -/
structure IsClear (p : Passage) : Prop where
  delivered : p.delivered = p.taken
  total : p.copy.total = p.taken.length

/-- Of the last chunk a front is written, perhaps an empty one, and something is left. The chunks
before it are written completely, and they are what is counted. -/
def IsCut (p : Passage) : Prop :=
  ∃ whole front left, left ≠ [] ∧ p.chunks = whole ++ [front ++ left] ∧
    p.delivered = whole.flatten ++ front ∧ p.copy.total = whole.flatten.length

/-- A copy that is to read is clear. -/
theorem Kept.isClear {total : Nat} {chunks : List (List UInt8)} {delivered : List UInt8}
    (h : Kept ⟨⟨.reading, total⟩, chunks, delivered⟩) :
    IsClear ⟨⟨.reading, total⟩, chunks, delivered⟩ := by
  cases h with
  | clear _ => exact ⟨rfl, rfl⟩
  | amid hs _ _ => rcases hs with hs | ⟨fault, hs⟩ <;> cases hs

/-- Of the chunk that a copy is to write something is left. -/
theorem Kept.isCut {left : List UInt8} {size total : Nat} {chunks : List (List UInt8)}
    {delivered : List UInt8} (h : Kept ⟨⟨.writing left size, total⟩, chunks, delivered⟩) :
    left ≠ [] ∧ IsCut ⟨⟨.writing left size, total⟩, chunks, delivered⟩ := by
  cases h with
  | clear hs => rcases hs with hs | ⟨fault, hs⟩ <;> cases hs
  | @amid _ whole front _ hs hleft _ =>
    rcases hs with hs | ⟨fault, hs⟩
    · cases hs
      exact ⟨hleft, whole, front, left, hleft, rfl, rfl, rfl⟩
    · cases hs

/-- An attempt ends the copy with its fault, or the copy goes on. -/
theorem Tries.stage (ht : Tries p a p') (hk : Kept p) :
    (a.isLast = true → p'.copy.stage = .ended a.fault?) ∧
      (a.isLast = false → p'.copy.isAlive = true) := by
  cases ht with
  | @read total chunks delivered r hr =>
    cases r with
    | bytes bs => cases bs <;> simp [Copy.onRead, Copy.isAlive]
    | failed fault => simp [Copy.onRead]
    | waits => simp [Copy.onRead, Copy.isAlive]
    | crashes => exact hr.elim
  | @write left size total chunks delivered w hw =>
    have hpos : 0 < left.length := List.length_pos_iff.2 hk.isCut.1
    cases w with
    | took n =>
      by_cases hle : left.length ≤ n
      · have hn : n ≠ 0 := by omega
        simp [Copy.onWrite, hle, Copy.isAlive, hn]
      · by_cases hn : n = 0
        · subst hn
          simp [Copy.onWrite, hk.isCut.1]
        · simp [Copy.onWrite, hle, Copy.isAlive, hn]
    | failed fault =>
      by_cases hi : fault.isInterrupted = true
      · simp [Copy.onWrite, hi, Copy.isAlive]
      · simp [Copy.onWrite, hi]
    | waits => simp [Copy.onWrite, Copy.isAlive]
    | crashes => exact hw.elim

theorem Kept.row (h : Kept p) (hr : Row p as p') : Kept p' := by
  induction hr with
  | refl => exact h
  | head ht _ ih => exact ih (h.tries ht)

/-- The chunks that a row takes are those that its reads brought. -/
theorem Row.chunks_eq (h : Row p as p') :
    p'.chunks = p.chunks ++ (as.filterMap Attempt.read?).flatMap ReadOutcome.chunk := by
  induction h with
  | refl => simp
  | head ht _ ih => cases ht <;> simp [ih, List.filterMap_cons]

/-- A row is made attempt by attempt. -/
theorem Row.split {front back : List Attempt} (h : Row p (front ++ a :: back) p') :
    ∃ m m', Row p front m ∧ Tries m a m' ∧ Row m' back p' := by
  induction front generalizing p with
  | nil =>
    cases h with
    | head ht hr => exact ⟨p, _, .refl, ht, hr⟩
  | cons b front ih =>
    cases h with
    | head ht hr =>
      obtain ⟨m, m', hf, ha, hb⟩ := ih hr
      exact ⟨m, m', .head ht hf, ha, hb⟩

/-- When a copy reads, all that it has read is written and counted. -/
theorem Row.clear_of_read {front back : List Attempt} {r : ReadOutcome}
    (h : Row p (front ++ .read r :: back) p') (hk : Kept p) :
    ∃ m, Row p front m ∧ m.copy.stage = .reading ∧ m.IsClear := by
  obtain ⟨m, m', hf, ht, -⟩ := h.split
  refine ⟨m, hf, ?_⟩
  have hm := hk.row hf
  cases ht with
  | read _ => exact ⟨rfl, hm.isClear⟩

/-- A copy that a read ends leaves all clear, and one that a write ends leaves its chunk cut. -/
theorem Tries.written (ht : Tries p a p') (hk : Kept p) (hl : a.isLast = true) :
    (∃ r, a = .read r) ∧ p'.IsClear ∨ (∃ w, a = .write w) ∧ p'.IsCut := by
  cases ht with
  | @read total chunks delivered r hr =>
    refine .inl ⟨⟨r, rfl⟩, ?_⟩
    have hends : r.Ends := by
      cases r with
      | bytes bs =>
        cases bs with
        | nil => exact .inl rfl
        | cons b bs => simp at hl
      | failed fault => exact .inr ⟨fault, rfl⟩
      | waits => simp at hl
      | crashes => exact hr.elim
    obtain ⟨-, hdelivered, htotal⟩ := Tries.whole (.read hr) hk hends
    exact ⟨hdelivered, htotal.trans (congrArg List.length hdelivered)⟩
  | @write left size total chunks delivered w hw =>
    refine .inr ⟨⟨w, rfl⟩, ?_⟩
    -- a write that ends the copy takes nothing
    have hnone : w.count = 0 ∧ ∃ fault, Copy.onWrite ⟨.writing left size, total⟩ left size w =
        ⟨.ended (some fault), total⟩ := by
      cases w with
      | took n =>
        cases n with
        | zero => exact ⟨rfl, .writeZero, by simp [Copy.onWrite, hk.isCut.1]⟩
        | succ n => simp at hl
      | failed fault =>
        refine ⟨rfl, fault, ?_⟩
        by_cases hi : fault.isInterrupted = true
        · simp [hi] at hl
        · simp [Copy.onWrite, hi]
      | waits => simp at hl
      | crashes => exact hw.elim
    obtain ⟨hcount, fault, hc⟩ := hnone
    rw [hc, hcount, List.take_zero, List.append_nil]
    exact hk.isCut.2

/-- The attempt that ends a copy is the last one, and none before it brought the end or a fault. -/
theorem Row.last {fault : Option Fault} (h : Row p as p') (hk : Kept p)
    (ha : p.copy.isAlive = true) (he : p'.copy.stage = .ended fault) :
    ∃ front a, as = front ++ [a] ∧ (∀ b ∈ front, b.isLast = false) ∧ a.isLast = true ∧
      a.fault? = fault := by
  induction h with
  | refl =>
    unfold Copy.isAlive at ha
    rw [he] at ha
    cases ha
  | @head p m p' a as ht hr ih =>
    obtain ⟨hlast, hgoes⟩ := ht.stage hk
    cases hl : a.isLast with
    | true =>
      -- nothing is attempted behind the end
      have hm := hlast hl
      cases hr with
      | refl =>
        rw [hm] at he
        exact ⟨[], a, rfl, fun _ h => absurd h List.not_mem_nil, hl, CopyStage.ended.inj he⟩
      | head ht' _ =>
        have hma := ht'.alive
        unfold Copy.isAlive at hma
        rw [hm] at hma
        cases hma
    | false =>
      obtain ⟨front, b, rfl, hfront, hb, hfault⟩ := ih (hk.tries ht) (hgoes hl) he
      exact ⟨a :: front, b, rfl, List.forall_mem_cons.2 ⟨hl, hfront⟩, hb, hfault⟩

/-- The attempt that ends a copy is the first one with a fault, if it has one. -/
theorem findSome?_fault {front : List Attempt} (h : ∀ b ∈ front, b.isLast = false) (a : Attempt) :
    (front ++ [a]).findSome? Attempt.fault? = a.fault? := by
  have hfront : front.findSome? Attempt.fault? = none := by
    rw [List.findSome?_eq_none_iff]
    intro b hb
    have hl := h b hb
    unfold Attempt.isLast at hl
    rw [Bool.or_eq_false_iff] at hl
    simpa using hl.2
  rw [List.findSome?_append, hfront, Option.none_or, List.findSome?_singleton]

end Passage

/-! ## Against scripts -/

/-- What a write brings of an outcome in a script: it takes no more than it was offered. -/
def WriteOutcome.within (offered : List UInt8) : WriteOutcome → WriteOutcome
  | .took n => .took (min n offered.length)
  | w => w

theorem WriteOutcome.fair_within {w : WriteOutcome} (hw : w ≠ .crashes) (offered : List UInt8) :
    (w.within offered).Fair offered := by
  cases w with
  | took n => exact Nat.min_le_right n _
  | failed _ | waits => trivial
  | crashes => exact absurd rfl hw

namespace Passage

/-- Makes attempt after attempt against scripts, until the copy has ended or its source has nothing
more to say: the attempts, and the passage behind them. Behind its script the sink takes all. -/
def drive (p : Passage) (reads : List ReadOutcome) (writes : List WriteOutcome) :
    List Attempt × Passage :=
  match p with
  | ⟨⟨.reading, total⟩, chunks, delivered⟩ =>
    match reads with
    | [] => ([], p)
    | r :: reads =>
      let d := drive ⟨Copy.onRead ⟨.reading, total⟩ r, chunks ++ r.chunk, delivered⟩ reads writes
      (.read r :: d.1, d.2)
  | ⟨⟨.writing left size, total⟩, chunks, delivered⟩ =>
    match writes with
    | [] =>
      let d := drive ⟨⟨.reading, total + size⟩, chunks, delivered ++ left⟩ reads []
      (.write (.took left.length) :: d.1, d.2)
    | w :: writes =>
      let w := w.within left
      let d := drive ⟨Copy.onWrite ⟨.writing left size, total⟩ left size w, chunks,
        delivered ++ left.take w.count⟩ reads writes
      (.write w :: d.1, d.2)
  | ⟨⟨.ended _, _⟩, _, _⟩ | ⟨⟨.crashed, _⟩, _, _⟩ => ([], p)
termination_by 2 * reads.length + writes.length +
  (match p.copy.stage with | .writing _ _ => 1 | _ => 0)
decreasing_by
  · simp only [List.length_cons]
    split <;> omega
  · simp
  · simp only [List.length_cons]
    split <;> omega

/-- Behind its script the sink takes what is left of a chunk. -/
theorem tries_all (left : List UInt8) (size total : Nat) (chunks : List (List UInt8))
    (delivered : List UInt8) :
    Tries ⟨⟨.writing left size, total⟩, chunks, delivered⟩ (.write (.took left.length))
      ⟨⟨.reading, total + size⟩, chunks, delivered ++ left⟩ := by
  have ht : Tries ⟨⟨.writing left size, total⟩, chunks, delivered⟩ _ _ :=
    .write (w := .took left.length) (Nat.le_refl _)
  simpa [Copy.onWrite, WriteOutcome.count] using ht

/-- What a copy does against scripts is a row of attempts. -/
theorem drive_row (p : Passage) {reads : List ReadOutcome} {writes : List WriteOutcome}
    (hr : ∀ r ∈ reads, r.Fair) (hw : ∀ w ∈ writes, w ≠ .crashes) :
    Row p (p.drive reads writes).1 (p.drive reads writes).2 := by
  fun_induction drive p reads writes with
  | case1 writes total chunks delivered => exact .refl
  | case2 writes total chunks delivered r reads d ih =>
    rw [List.forall_mem_cons] at hr
    exact .head (.read hr.1) (ih hr.2 hw)
  | case3 reads left size total chunks delivered d ih =>
    exact .head (tries_all left size total chunks delivered) (ih hr hw)
  | case4 reads left size total chunks delivered w writes w' d ih =>
    rw [List.forall_mem_cons] at hw
    exact .head (.write (WriteOutcome.fair_within hw.1 left)) (ih hr hw.2)
  | case5 reads writes fault total chunks delivered => exact .refl
  | case6 reads writes total chunks delivered => exact .refl

/-- The reads that a copy makes are the first ones of the script. -/
theorem drive_reads (p : Passage) (reads : List ReadOutcome) (writes : List WriteOutcome) :
    (p.drive reads writes).1.filterMap Attempt.read? <+: reads := by
  fun_induction drive p reads writes with
  | case1 => exact List.nil_prefix
  | case2 writes total chunks delivered r reads d ih => exact List.prefix_cons_inj r |>.2 ih
  | case3 reads left size total chunks delivered d ih => exact ih
  | case4 reads left size total chunks delivered w writes w' d ih => exact ih
  | case5 | case6 => exact List.nil_prefix

/-- A copy whose source comes to its end, or fails, has ended. -/
theorem drive_ended {p : Passage} {reads : List ReadOutcome} {writes : List WriteOutcome}
    (hk : Kept p) (hr : ∀ r ∈ reads, r.Fair) (hw : ∀ w ∈ writes, w ≠ .crashes)
    (he : (∃ r ∈ reads, r.Ends) ∨ ∃ fault, p.copy.stage = .ended fault) :
    ∃ fault, (p.drive reads writes).2.copy.stage = .ended fault := by
  fun_induction drive p reads writes with
  | case1 writes total chunks delivered => simp at he
  | case2 writes total chunks delivered r reads d ih =>
    rw [List.forall_mem_cons] at hr
    refine ih (hk.tries (.read hr.1)) hr.2 hw ?_
    obtain ⟨s, hs, hends⟩ := he.resolve_right (by simp)
    rcases List.mem_cons.1 hs with rfl | hs
    · -- this read ends the copy
      right
      rcases hends with rfl | ⟨fault, rfl⟩
      · exact ⟨none, rfl⟩
      · exact ⟨some fault, rfl⟩
    · exact .inl ⟨s, hs, hends⟩
  | case3 reads left size total chunks delivered d ih =>
    exact ih (hk.tries (tries_all left size total chunks delivered)) hr hw
      (.inl (he.resolve_right (by simp)))
  | case4 reads left size total chunks delivered w writes w' d ih =>
    rw [List.forall_mem_cons] at hw
    refine ih (hk.tries (.write (WriteOutcome.fair_within hw.1 left))) hr hw.2 ?_
    exact .inl (he.resolve_right (by simp))
  | case5 reads writes fault total chunks delivered => exact ⟨fault, rfl⟩
  | case6 reads writes total chunks delivered =>
    -- a copy whose books are kept did not break
    cases hk with
    | clear hs => simp at hs
    | amid hs _ _ => simp at hs

/-! ## Waits -/

/-- Waits change nothing of what a copy comes to. -/
theorem drive_patient (p : Passage) (reads : List ReadOutcome) (writes : List WriteOutcome) :
    (p.drive (reads.filter (· ≠ .waits)) (writes.filter (· ≠ .waits))).2 =
      (p.drive reads writes).2 := by
  fun_induction drive p reads writes with
  | case1 writes total chunks delivered => simp [drive]
  | case2 writes total chunks delivered r reads d ih =>
    by_cases hr : r = .waits
    · subst hr
      simpa [Copy.onRead, ReadOutcome.chunk, d] using ih
    · rw [List.filter_cons_of_pos (by simpa using hr), drive]
      exact ih
  | case3 reads left size total chunks delivered d ih =>
    rw [List.filter_nil, drive]
    exact ih
  | case4 reads left size total chunks delivered w writes w' d ih =>
    by_cases hw : w = .waits
    · subst hw
      simpa [Copy.onWrite, WriteOutcome.within, WriteOutcome.count, d, w'] using ih
    · rw [List.filter_cons_of_pos (by simpa using hw), drive]
      exact ih
  | case5 reads writes fault total chunks delivered => simp [drive]
  | case6 reads writes total chunks delivered => simp [drive]

end Passage

/-! ## Without waits -/

namespace Copy

/-- Writing uses up some first of the script. -/
theorem writeOn_suffix (c : Copy) (left : List UInt8) (size : Nat) (writes : List WriteOutcome) :
    (c.writeOn left size writes).1 <:+ writes := by
  induction writes generalizing left with
  | nil => exact List.suffix_refl _
  | cons w writes ih =>
    cases w with
    | took n =>
      rw [writeOn]
      split
      · exact List.suffix_cons _ _
      · exact (ih _).trans (List.suffix_cons _ _)
    | failed fault =>
      rw [writeOn]
      split
      · exact (ih left).trans (List.suffix_cons _ _)
      · exact List.suffix_cons _ _
    | waits => exact List.suffix_refl _
    | crashes => exact List.suffix_cons _ _

/-- A chunk is written in attempts, after which the copy is no longer at it. -/
theorem drive_writeOn (c : Copy) (left : List UInt8) (size : Nat) {writes : List WriteOutcome}
    (hw : ∀ w ∈ writes, w ≠ .waits) (chunks : List (List UInt8)) (delivered : List UInt8)
    (reads : List ReadOutcome) :
    (Passage.drive ⟨⟨.writing left size, c.total⟩, chunks, delivered⟩ reads writes).2 =
        (Passage.drive ⟨(c.writeOn left size writes).2.2, chunks,
          delivered ++ (c.writeOn left size writes).2.1.flatten⟩ reads
          (c.writeOn left size writes).1).2 ∧
      ∀ left' size', (c.writeOn left size writes).2.2.stage ≠ .writing left' size' := by
  -- on the attempts of the script
  induction writes generalizing left delivered with
  | nil =>
    rw [Passage.drive]
    simp [writeOn, onWrite]
  | cons w writes ih =>
    rw [List.forall_mem_cons] at hw
    rw [Passage.drive]
    cases w with
    | took n =>
      have htook := onWrite_took c left size n
      have htake : left.take n = left.take (min n left.length) := List.take_eq_take_min
      by_cases hn : n = 0 ∨ left.length ≤ n
      · rw [writeOn, if_pos hn]
        refine ⟨?_, ?_⟩
        · simp only [htook, htake, List.flatten_singleton]
          rfl
        · unfold onWrite
          dsimp only
          split
          · simp
          · rename_i hle
            rw [if_pos (hn.resolve_right hle)]
            simp
      · rw [writeOn, if_neg hn]
        have hstay : c.onWrite left size (.took n) = ⟨.writing (left.drop n) size, c.total⟩ := by
          rw [onWrite, if_neg (fun hle => hn (.inr hle)), if_neg (fun hz => hn (.inl hz))]
        obtain ⟨hsame, hdone⟩ := ih (left.drop n) hw.2 (delivered ++ left.take n)
        refine ⟨?_, hdone⟩
        simp only [List.flatten_cons, ← List.append_assoc]
        rw [← hsame, ← hstay, htook, htake]
        rfl
    | failed fault =>
      by_cases hi : fault.isInterrupted = true
      · rw [writeOn, if_pos hi]
        obtain ⟨hsame, hdone⟩ := ih left hw.2 delivered
        refine ⟨?_, hdone⟩
        simp only [List.flatten_cons, List.nil_append]
        rw [← hsame]
        simp [WriteOutcome.within, onWrite, hi, WriteOutcome.count]
      · rw [writeOn, if_neg hi]
        simp [WriteOutcome.within, onWrite, hi, WriteOutcome.count]
    | waits => exact absurd rfl hw.1
    | crashes => simp [writeOn, WriteOutcome.within, onWrite, WriteOutcome.count]

/-- Against scripts without waits, and under a token that nobody cancels, a copy comes to what its
attempts come to. -/
theorem drive_eq_copyOn (total : Nat) {t : Token} {writes : List WriteOutcome}
    {reads : List ReadOutcome} (ht : t.cancelled = false)
    (hr : ∀ r ∈ reads, r ≠ .waits ∧ r ≠ .crashes) (hw : ∀ w ∈ writes, w ≠ .waits)
    (chunks : List (List UInt8)) (delivered : List UInt8) :
    let d := (Passage.drive ⟨⟨.reading, total⟩, chunks, delivered⟩ reads writes).2
    let e := Copy.copyOn ⟨.reading, total⟩ false t writes reads
    d.copy = e.copy ∧ d.delivered = delivered ++ e.took.flatten := by
  have hrace : t.race = (true, t) := by
    rw [Token.race, ht]
    rfl
  -- on the reads of the script
  induction reads generalizing total writes chunks delivered with
  | nil => simp [Passage.drive, copyOn]
  | cons r reads ih =>
    rw [List.forall_mem_cons] at hr
    rw [Passage.drive, copyOn, hrace]
    cases r with
    | bytes bs =>
      cases bs with
      | nil => simp [Passage.drive, onRead]
      | cons b bs =>
        obtain ⟨hsame, hdone⟩ := drive_writeOn ⟨.writing (b :: bs) (b :: bs).length, total⟩ (b :: bs)
          (b :: bs).length hw (chunks ++ [b :: bs]) delivered reads
        have hsuffix := writeOn_suffix ⟨.writing (b :: bs) (b :: bs).length, total⟩ (b :: bs)
          (b :: bs).length writes
        rcases hwrite : writeOn ⟨.writing (b :: bs) (b :: bs).length, total⟩ (b :: bs)
          (b :: bs).length writes with ⟨writes', took, ⟨stage, total'⟩⟩
        rw [hwrite] at hsame hdone hsuffix
        simp only [onRead, ReadOutcome.chunk, hrace, hwrite] at hsame ⊢
        rw [hsame]
        cases stage with
        | reading =>
          obtain ⟨hc, hd⟩ := ih total' hr.2 (fun w h => hw w (hsuffix.subset h))
            (chunks ++ [b :: bs]) (delivered ++ took.flatten)
          refine ⟨hc, ?_⟩
          rw [hd, List.append_assoc, ← List.flatten_append]
          rfl
        | writing left size => exact absurd rfl (hdone left size)
        | ended fault => simp [Passage.drive]
        | crashed => simp [Passage.drive]
    | failed fault => simp [Passage.drive, onRead]
    | waits => exact absurd rfl hr.1.1
    | crashes => exact absurd rfl hr.1.2

end Copy

/-! ## Whole scripts -/

/-- What a copy that nobody cancels comes to with its attempts. -/
structure Passage.Concludes (p : Passage) (as : List Attempt) (fault : Option Fault) : Prop where
  ended : p.copy.stage = .ended fault
  /-- A read brings no more than a chunk. -/
  chunk_le : ∀ bs, .read (.bytes bs) ∈ as → bs.length ≤ chunkSize
  given : p.chunks = (as.filterMap Attempt.read?).flatMap ReadOutcome.chunk
  /-- Before each read all that was read is written and counted. -/
  turn : ∀ front r back, as = front ++ .read r :: back →
    ∃ m, fresh.Row front m ∧ m.copy.stage = .reading ∧ m.IsClear
  /-- The first attempt that brings the end or a fault is the last one. -/
  last : ∃ front a, as = front ++ [a] ∧ (∀ b ∈ front, b.isLast = false) ∧ a.isLast = true
  first : fault = as.findSome? Attempt.fault?
  /-- Behind a read that ended the copy all is written; behind a write the last chunk is cut. -/
  written : (∃ r, as.getLast? = some (.read r)) ∧ p.IsClear ∨
    (∃ w, as.getLast? = some (.write w)) ∧ p.IsCut
  /-- What is reported is what was counted. -/
  counted : p.copy.counted = p.copy.total

theorem Passage.Tries.fair {p p' : Passage} {r : ReadOutcome} (h : Tries p (.read r) p') :
    r.Fair := by
  cases h with
  | read hr => exact hr

/-- A row of attempts that ends a copy concludes it. -/
theorem Passage.Row.concludes {p : Passage} {as : List Attempt} {fault : Option Fault}
    (h : fresh.Row as p) (he : p.copy.stage = .ended fault) : p.Concludes as fault := by
  obtain ⟨front, a, rfl, hfront, ha, hfault⟩ := h.last kept_fresh rfl he
  obtain ⟨m, m', hf, ht, hrest⟩ := h.split
  cases hrest
  refine ⟨he, ?_, h.chunks_eq, ?_, ⟨front, a, rfl, hfront, ha⟩, ?_, ?_, (kept_fresh.row h).counted⟩
  · intro bs hbs
    obtain ⟨before, behind, heq⟩ := List.append_of_mem hbs
    rw [heq] at h
    obtain ⟨_, _, -, hread, -⟩ := h.split
    exact hread.fair
  · intro front' r back heq
    rw [heq] at h
    exact h.clear_of_read kept_fresh
  · rw [findSome?_fault hfront, hfault]
  · rw [List.getLast?_concat]
    rcases ht.written (kept_fresh.row hf) ha with ⟨⟨r, rfl⟩, hp⟩ | ⟨⟨w, rfl⟩, hp⟩
    · exact .inl ⟨⟨r, rfl⟩, hp⟩
    · exact .inr ⟨⟨w, rfl⟩, hp⟩

namespace ReadOutcome

/-- A read is cut into reads of bytes, or left as it is. -/
theorem eq_or_bytes_of_mem_split {r s : ReadOutcome} (h : s ∈ r.split) :
    s = r ∨ ∃ bs, s = .bytes bs := by
  unfold split at h
  split at h
  · exact .inl (List.mem_singleton.1 h)
  · obtain ⟨c, -, rfl⟩ := List.mem_map.1 h
    exact .inr ⟨c, rfl⟩
  · exact .inl (List.mem_singleton.1 h)

/-- No read of a script is cut into one of this kind, if it is none of that kind itself. -/
theorem ne_of_mem_split {r s t : ReadOutcome} (ht : ∀ bs, t ≠ .bytes bs) (hr : r ≠ t)
    (h : s ∈ r.split) : s ≠ t := by
  rintro rfl
  rcases eq_or_bytes_of_mem_split h with rfl | ⟨bs, rfl⟩
  · exact hr rfl
  · exact ht bs rfl

theorem fair_of_script {reads : List ReadOutcome} (hr : .crashes ∉ reads) :
    ∀ r ∈ reads.flatMap split, r.Fair := by
  intro s hs
  obtain ⟨r, hmem, hsplit⟩ := List.mem_flatMap.1 hs
  exact (fair_of_mem_split hsplit).resolve_right
    (ne_of_mem_split (by simp) (ne_of_mem_of_not_mem hmem hr) hsplit)

/-- What ends the copy is read in one piece. -/
theorem mem_split_of_ends {r : ReadOutcome} (h : r.Ends) : r ∈ r.split := by
  rcases h with rfl | ⟨fault, rfl⟩
  · exact List.mem_singleton.2 rfl
  · exact List.mem_singleton.2 rfl

/-- Waits are left out of a script before its reads are cut or afterwards. -/
theorem flatMap_split_patient (reads : List ReadOutcome) :
    (reads.filter (· ≠ .waits)).flatMap split = (reads.flatMap split).filter (· ≠ .waits) := by
  induction reads with
  | nil => rfl
  | cons r reads ih =>
    rw [List.flatMap_cons, List.filter_append, ← ih]
    by_cases hr : r = .waits
    · subst hr
      simp [split]
    · have hsplit : r.split.filter (· ≠ .waits) = r.split := by
        rw [List.filter_eq_self]
        intro s hs
        simpa using ne_of_mem_split (by simp) hr hs
      rw [hsplit, List.filter_cons_of_pos (by simpa using hr), List.flatMap_cons]

end ReadOutcome

/-- The streams are the scripts without their waits, and unbroken. -/
structure IsPatient (source sink : Script) (reads : List ReadOutcome)
    (writes : List WriteOutcome) : Prop where
  reads_eq : source.reads = reads.filter (· ≠ .waits)
  writes_eq : sink.writes = writes.filter (· ≠ .waits)
  source_unbroken : source.broken = false
  sink_unbroken : sink.broken = false

namespace Passage

/-- Between streams without waits, and under a token that nobody cancels, the copy comes to what its
attempts came to. -/
theorem between_eq_drive {t : Token} {source sink : Script} {reads : List ReadOutcome}
    {writes : List WriteOutcome} (ht : t.cancelled = false)
    (h : IsPatient source sink reads writes) (hr : .crashes ∉ reads) :
    let d := (fresh.drive (reads.flatMap ReadOutcome.split) writes).2
    (Copy.between t source sink).copy = d.copy ∧
      ∃ took : List (List UInt8), took.flatten = d.delivered ∧
        (Copy.between t source sink).sink.calls = sink.calls ++ took.map .write := by
  intro d
  have hoffers : source.offers = source.reads.flatMap ReadOutcome.split :=
    if_neg (by simp [h.source_unbroken])
  have hreads : ∀ r ∈ source.offers, r ≠ .waits ∧ r ≠ .crashes := by
    rw [hoffers, h.reads_eq, ReadOutcome.flatMap_split_patient]
    intro r hmem
    obtain ⟨hmem, hwaits⟩ := List.mem_filter.1 hmem
    refine ⟨by simpa using hwaits, ?_⟩
    rintro rfl
    exact ReadOutcome.fair_of_script hr _ hmem
  have hwrites : ∀ w ∈ sink.writes, w ≠ .waits := by
    rw [h.writes_eq]
    intro w hmem
    simpa using (List.mem_filter.1 hmem).2
  have hd : (fresh.drive source.offers sink.writes).2 = d := by
    rw [hoffers, h.reads_eq, ReadOutcome.flatMap_split_patient, h.writes_eq, drive_patient]
  obtain ⟨hcopy, hdelivered⟩ := Copy.drive_eq_copyOn 0 ht hreads hwrites [] []
  change (fresh.drive _ _).2.copy = _ at hcopy
  change (fresh.drive _ _).2.delivered = _ at hdelivered
  rw [hd] at hcopy hdelivered
  unfold Copy.between
  rw [h.sink_unbroken]
  exact ⟨hcopy.symm, _, hdelivered.symm, rfl⟩

end Passage

/-! ## The whole copy -/

/-- A copy that has ended cancels the token and shuts its sink down. -/
theorem CopyTask.conclude_ended {x : CopyTask} {fault : Option Fault}
    (hc : x.copy.stage = .ended fault) (hs : x.sink.broken = false) :
    x.conclude.copy = x.copy ∧ x.conclude.token.cancelled = true ∧
      x.conclude.sink.calls = x.sink.calls ++ [.shutdown] ∧
      x.conclude.isOver = decide (x.sink.onShutdown ≠ .waits) := by
  have hkeep : x.copy.cancel = x.copy := by
    rw [Copy.cancel, Copy.isAlive, hc]
    rfl
  unfold conclude
  simp only [hkeep, ite_self, hc, hs]
  exact ⟨rfl, rfl, rfl, rfl⟩

/-- A copy that nobody cancels, against a source whose script comes to an end and any sink, with
pauses in both. It concludes its attempts, whose reads are the first ones of the script. Between
streams without the pauses the whole copy comes to the same: its sink is asked to write, in one call
after the other, what was delivered, and behind that to shut down, once; the token is cancelled, also
where nobody comes back from the shutdown. -/
theorem solo_copy (reads : List ReadOutcome) (writes : List WriteOutcome)
    (hr : .crashes ∉ reads) (hw : .crashes ∉ writes) (he : ∃ r ∈ reads, r.Ends) :
    let d := Passage.fresh.drive (reads.flatMap ReadOutcome.split) writes
    (∃ fault, d.2.Concludes d.1 fault) ∧
    d.1.filterMap Attempt.read? <+: reads.flatMap ReadOutcome.split ∧
    ∀ (t : Token) (source sink : Script), t.cancelled = false →
      IsPatient source sink reads writes →
      let x := Copy.untilDone t source sink
      x.copy = d.2.copy ∧ x.token.cancelled = true ∧
        (∃ took : List (List UInt8), took.flatten = d.2.delivered ∧
          x.sink.calls = sink.calls ++ took.map .write ++ [.shutdown]) ∧
        x.isOver = decide (sink.onShutdown ≠ .waits) := by
  intro d
  have hfair := ReadOutcome.fair_of_script hr
  have hwrites : ∀ w ∈ writes, w ≠ .crashes := fun w hmem => ne_of_mem_of_not_mem hmem hw
  have hrow : Passage.fresh.Row d.1 d.2 := Passage.drive_row _ hfair hwrites
  obtain ⟨fault, hended⟩ : ∃ fault, d.2.copy.stage = .ended fault := by
    obtain ⟨r, hmem, hends⟩ := he
    exact Passage.drive_ended Passage.kept_fresh hfair hwrites
      (.inl ⟨r, List.mem_flatMap.2 ⟨r, hmem, ReadOutcome.mem_split_of_ends hends⟩, hends⟩)
  refine ⟨⟨fault, hrow.concludes hended⟩, Passage.drive_reads _ _ _, ?_⟩
  intro t source sink ht h
  obtain ⟨hcopy, took, htook, hcalls⟩ := Passage.between_eq_drive ht h hr
  have hstage : (Copy.between t source sink).copy.stage = .ended fault := by
    rw [hcopy]
    exact hended
  obtain ⟨hsame, htoken, hshut, hover⟩ := CopyTask.conclude_ended hstage h.sink_unbroken
  refine ⟨hsame.trans hcopy, htoken, ⟨took, htook, ?_⟩, hover⟩
  rw [← hcalls]
  exact hshut

/-- One byte, and after a pause three more. -/
def stuckReads : List ReadOutcome := [.bytes [1], .waits, .bytes [2, 3, 4], .bytes []]

/-- Of the second chunk two bytes are taken, and after a pause and an interruption none. -/
def stuckWrites : List WriteOutcome :=
  [.took 1, .took 2, .waits, .failed ⟨"Interrupted", "again"⟩, .took 0, .took 3]

def stuckSource : Script := ⟨stuckReads.filter (· ≠ .waits), [], .done, [], false⟩

def stuckSink : Script := ⟨[], stuckWrites.filter (· ≠ .waits), .done, [], false⟩

theorem drive_stuck : (Passage.fresh.drive (stuckReads.flatMap ReadOutcome.split) stuckWrites).2 =
    ⟨⟨.ended (some .writeZero), 1⟩, [[1], [2, 3, 4]], [1, 2, 3]⟩ := by
  simp [stuckReads, stuckWrites, ReadOutcome.split, chunks, chunkSize, Passage.drive, Passage.fresh,
    Copy.fresh, Copy.onRead, Copy.onWrite, WriteOutcome.within, WriteOutcome.count,
    ReadOutcome.chunk, Fault.isInterrupted]

/-- The front of the second chunk is written and not counted; then the token is cancelled and the
sink shut down. -/
theorem solo_copy_stuck :
    let x := Copy.untilDone ⟨false, []⟩ stuckSource stuckSink
    x.copy = ⟨.ended (some .writeZero), 1⟩ ∧ x.token.cancelled = true ∧
      ∃ took : List (List UInt8), took.flatten = [1, 2, 3] ∧
        x.sink.calls = took.map .write ++ [.shutdown] := by
  intro x
  obtain ⟨-, -, hall⟩ := solo_copy stuckReads stuckWrites (by decide) (by decide)
    ⟨.bytes [], by decide, .inl rfl⟩
  obtain ⟨hcopy, htoken, ⟨took, htook, hcalls⟩, -⟩ :=
    hall ⟨false, []⟩ stuckSource stuckSink rfl ⟨rfl, rfl, rfl, rfl⟩
  rw [drive_stuck] at hcopy htook
  exact ⟨hcopy, htoken, took, htook, hcalls⟩

/-- The error that ends a copy need not be the first one that occurs: a write that is interrupted
is made again. -/
theorem not_first_error : ¬∀ (reads : List ReadOutcome) (writes : List WriteOutcome),
    .crashes ∉ reads → .crashes ∉ writes → (∃ r ∈ reads, r.Ends) →
      let d := Passage.fresh.drive (reads.flatMap ReadOutcome.split) writes
      d.2.copy.stage = .ended (d.1.findSome? Attempt.error?) := by
  intro h
  have hended := h [.bytes [7], .bytes []] [.failed ⟨"Interrupted", "again"⟩] (by decide) (by decide)
    ⟨.bytes [], by decide, .inl rfl⟩
  simp [ReadOutcome.split, chunks, chunkSize, Passage.drive, Passage.fresh, Copy.fresh,
    Copy.onRead, Copy.onWrite, WriteOutcome.within, Fault.isInterrupted, List.findSome?_cons]
    at hended

end Tether.Relay
