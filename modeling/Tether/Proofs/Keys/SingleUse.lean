import Tether.Proofs.Keys.Bench
import Tether.Proofs.Supervisor.Standing

/-!
No key is used twice. A supervisor keeps the keys of its builds in a ledger without knowing it: a
build asks until a call brings a key, and that key starts one session or none. One lemma for each
atomic action says what it does to the ledger, and only the start of a session writes into it
(`Moment.books_work`); a supervisor that is stopped leaves the call behind that it waited for. So
the ledger of every moment within reach is continued by that of every later one: `Reaches.books`.
Builds by hand keep a ledger too, and `keys_single_use` puts both together.
-/

namespace Tether.Agent

open Tether.Control Tether.Overlay Tether.Sim

/-! ## What a supervisor does with its keys -/

/-- The builds that had their key and are not on record as ended yet. -/
def Duty.unreported : Duty → Nat
  | .equip _ | .listen _ | .discard _ _ | .hold _ | .publish _ | .conclude (some _) => 1
  | _ => 0

/-- How the calls of a supervisor stand to its ledger. It pursues a key behind the last call that
it waited for, or has the key at hand, or has waited for all its calls. Unless it was stopped,
every key that came was spent. -/
def Supervisor.Stands (s : Supervisor) (origin : Source) (k : Ledger) : Duty → Prop
  | .wait | .rest =>
    match s.phase with
    | .building p => p.Behind origin k.last s.source.calls ∧ k.spent = origin.granted k.last
    | .watching _ | .crashed => s.source.calls = k.last ∧ k.spent = origin.granted k.last
    | .stopped => s.source.calls = k.last
  | .start key =>
    origin.Awaits k.last s.source.calls (.ok key) ∧ k.spent = origin.granted k.last
  | _ => s.source.calls = k.last ∧ k.spent = origin.granted k.last

namespace Moment

/-- A ledger accounts for the keys of a moment. -/
structure Books (m : Moment) (origin : Source) (k : Ledger) : Prop where
  script : m.supervisor.source.script = origin.script
  stands : m.supervisor.Stands origin k m.duty
  valid : k.Valid origin m.supervisor.net
  builds : k.spent.length = conclusions m.supervisor.history + m.duty.unreported

variable {origin : Source} {k : Ledger} {m m₀ : Moment} {s : Supervisor} {first : Bool}

/-- The key at hand is spent, whether the session starts or not. -/
theorem books_start {key : Key} (h : Books ⟨first, .start key, s⟩ origin k) :
    (work ⟨first, .start key, s⟩).Books origin
      (k.spend s.source.calls (s.net.start (s.setup.settings.options key)).2.isOk) := by
  obtain ⟨hscript, ⟨hwait, hspent⟩, hvalid, hbuilds⟩ := h
  have ho := s.net.options_start (s.setup.settings.options key)
  have hnew := hvalid.spend hwait rfl _ ho
  have hgranted : k.spent ++ [s.source.calls] = origin.granted s.source.calls := by
    rw [hspent, hwait.granted_eq]
  have hlength : (k.spent ++ [s.source.calls]).length = conclusions s.history + 1 := by
    rw [List.length_append, hbuilds]
    rfl
  simp only [work]
  generalize s.net.start (s.setup.settings.options key) = started at hnew ⊢
  obtain ⟨net, cause | id⟩ := started
  · exact ⟨hscript, ⟨rfl, hgranted⟩, hnew, hlength⟩
  · refine ⟨hscript, ⟨rfl, hgranted⟩, hnew, ?_⟩
    show (k.spent ++ [s.source.calls]).length = conclusions ((s.now, .started id) :: s.history) + 1
    rw [hlength, conclusions_cons]
    rfl

theorem books_listen {id : Nat} (h : Books ⟨first, .listen id, s⟩ origin k) :
    (work ⟨first, .listen id, s⟩).Books origin k := by
  obtain ⟨hscript, hstands, hvalid, hbuilds⟩ := h
  have ho := s.net.options_listen id s.setup.settings.livenessPort
  simp only [work]
  generalize s.net.listen id s.setup.settings.livenessPort = heard at ho ⊢
  obtain ⟨net, cause | listener⟩ := heard
  · exact ⟨hscript, hstands, hvalid.congr ho, hbuilds⟩
  · exact ⟨hscript, hstands, hvalid.congr ho, hbuilds⟩

theorem books_conclude {e : Option Error} (h : Books ⟨first, .conclude e, s⟩ origin k) :
    (work ⟨first, .conclude e, s⟩).Books origin k := by
  obtain ⟨hscript, hstands, hvalid, hbuilds⟩ := h
  cases first with
  | false =>
    cases e with
    | none => exact ⟨hscript, hstands, hvalid, hbuilds⟩
    | some e =>
      refine ⟨hscript, hstands, hvalid, ?_⟩
      simpa [work, Supervisor.conclude, Supervisor.publish, Supervisor.tell, Supervisor.note,
        Event.concludes, Duty.unreported] using hbuilds
  | true =>
    cases e with
    | none =>
      simp only [work, Supervisor.enter]
      split
      · exact ⟨hscript, hstands, hvalid, hbuilds⟩
      · exact ⟨hscript, hstands, hvalid, hbuilds⟩
    | some e =>
      refine ⟨hscript, hstands.1, hvalid, ?_⟩
      simpa [work, Supervisor.publish, Supervisor.note, Event.concludes, Duty.unreported]
        using hbuilds

/-- To ask for a key is to go on behind the last one. -/
theorem books_ask (h : Books ⟨first, .ask, s⟩ origin k) :
    (work ⟨first, .ask, s⟩).Books origin k := by
  obtain ⟨hscript, ⟨hcalls, hspent⟩, hvalid, hbuilds⟩ := h
  have hbarren : origin.Barren k.last s.source.calls := by
    rw [hcalls]
    exact .refl origin k.last
  refine ⟨hscript, ⟨Pursuit.behind_ask hscript hbarren s.now 1, hspent⟩, hvalid, ?_⟩
  simpa [work, Supervisor.note, Event.concludes, Duty.unreported] using hbuilds

/-- A request is taken only where no key is waited for. -/
theorem books_rest (h : Books ⟨first, .rest, s⟩ origin k) :
    (work ⟨first, .rest, s⟩).Books origin k := by
  obtain ⟨hscript, hstands, hvalid, hbuilds⟩ := h
  simp only [work]
  split
  · rename_i hc
    obtain ⟨⟨due, hp⟩, -⟩ := Supervisor.isCalled_iff.1 hc
    simp only [Supervisor.Stands, hp] at hstands
    refine ⟨hscript, hstands, hvalid, ?_⟩
    simpa [Supervisor.tell, Supervisor.note, Event.concludes, Duty.unreported] using hbuilds
  · exact ⟨hscript, hstands, hvalid, hbuilds⟩

/-- Every atomic action but a start leaves the ledger as it is. -/
theorem books_work (h : m.Books origin k) : ∃ k', k.Extends k' ∧ m.work.Books origin k' := by
  obtain ⟨first, duty, s⟩ := m
  -- only the start of a session writes into the ledger
  have hsame : (∀ key, duty ≠ .start key) → (work ⟨first, duty, s⟩).Books origin k := by
    intro hduty
    cases duty with
    | start key => exact absurd rfl (hduty key)
    | listen id => exact books_listen h
    | conclude e => exact books_conclude h
    | ask => exact books_ask h
    | wait => exact h
    | check due =>
      obtain ⟨hscript, hstands, hvalid, hbuilds⟩ := h
      have hn := Network.options_congr (s.net.sessions_checkHealth s.current)
      simp only [work]
      split <;>
        refine ⟨hscript, hstands, hvalid.congr hn, ?_⟩ <;>
        simpa [Supervisor.note, Supervisor.tell, Event.concludes, Duty.unreported] using hbuilds
    | equip id =>
      exact ⟨h.script, h.stands, h.valid.congr (Network.options_setFallback _ _ _), h.builds⟩
    | close id | discard id cause =>
      refine ⟨h.script, h.stands, h.valid.congr (Network.options_close _ _), ?_⟩
      simpa [work, Supervisor.closeSession, Supervisor.note, Event.concludes, Duty.unreported]
        using h.builds
    | rest => exact books_rest h
    | rearm =>
      obtain ⟨hscript, hstands, hvalid, hbuilds⟩ := h
      simp only [work]
      split <;> exact ⟨hscript, hstands, hvalid, hbuilds⟩
    | withdraw =>
      obtain ⟨hscript, hstands, hvalid, hbuilds⟩ := h
      simp only [work]
      split <;>
        refine ⟨hscript, hstands, hvalid, ?_⟩ <;>
        simpa [Supervisor.publishSlot, Supervisor.tell, Supervisor.note, Event.concludes,
          Duty.unreported] using hbuilds
    | _ =>
      refine ⟨h.script, h.stands, h.valid, ?_⟩
      simpa [work, Supervisor.publish, Supervisor.publishSlot, Supervisor.note, Event.concludes,
        Duty.unreported] using h.builds
  cases duty with
  | start key => exact ⟨_, Ledger.extends_spend h.stands.1.lt _, books_start h⟩
  | _ => exact ⟨k, .refl k, hsame (by simp)⟩

/-! ## Waits and events from outside -/

theorem last_le_calls (h : s.Stands origin k .wait) : k.last ≤ s.source.calls := by
  simp only [Supervisor.Stands] at h
  split at h
  · exact h.1.le
  · exact Nat.le_of_eq h.1.symm
  · exact Nat.le_of_eq h.1.symm
  · exact Nat.le_of_eq h.symm

/-- Who stops waits for no call any longer. -/
theorem books_over {s' : Supervisor} (h : Books ⟨first, .wait, s⟩ origin k)
    (hphase : s'.phase = .stopped) (hsource : s'.source = s.source)
    (hnet : s'.net.options = s.net.options)
    (hhistory : conclusions s'.history = conclusions s.history) :
    ∃ k', k.Extends k' ∧ Books ⟨false, .wait, s'⟩ origin k' := by
  obtain ⟨hscript, hstands, hvalid, hbuilds⟩ := h
  have hle := last_le_calls hstands
  refine ⟨k.leave s.source.calls, Ledger.extends_leave hle, ?_, ?_, ?_, ?_⟩
  · show s'.source.script = origin.script
    rw [hsource]
    exact hscript
  · simp only [Supervisor.Stands, hphase, hsource]
    rfl
  · exact (hvalid.leave hle).congr hnet
  · show k.spent.length = conclusions s'.history + 0
    rw [hhistory]
    exact hbuilds

theorem books_stop (h : Books ⟨false, .wait, s⟩ origin k) :
    ∃ k', k.Extends k' ∧ Books ⟨false, .wait, s.stop⟩ origin k' := by
  apply books_over h (Supervisor.phase_stop s)
  all_goals
    unfold Supervisor.stop
    dsimp only
    split
  · rfl
  · rfl
  · rfl
  · exact Network.options_close _ _
  · rfl
  · simp [Supervisor.closeSession, Supervisor.note, Event.concludes]

/-- Whatever comes right behind a moment, its ledger is only continued. -/
theorem Next.books {m' : Moment} (hn : Next m m') (h : m.Books origin k) :
    ∃ k', k.Extends k' ∧ m'.Books origin k' := by
  cases hn with
  | work => exact books_work h
  | check hp =>
    obtain ⟨hscript, hstands, hvalid, hbuilds⟩ := h
    simp only [Supervisor.Stands, hp] at hstands
    exact ⟨k, .refl k, hscript, hstands, hvalid, hbuilds⟩
  | @pursue first s p p' source log hp ha | @key first s p key source log hp ha =>
    obtain ⟨hscript, hstands, hvalid, hbuilds⟩ := h
    simp only [Supervisor.Stands, hp] at hstands
    have hacted := hstands.1.act hscript s.setup.retry
    rw [ha] at hacted
    exact ⟨k, .refl k, hacted.1, ⟨hacted.2, hstands.2⟩, hvalid, hbuilds⟩
  | abandon s time =>
    -- the first key may still come, but nobody takes it
    let left : Supervisor := { s with phase := .stopped, now := time }
    have hleft : ∃ k', k.Extends k' ∧ Books ⟨false, .wait, left⟩ origin k' :=
      books_over h rfl rfl rfl rfl
    exact hleft
  | @request s times _ =>
    obtain ⟨pending, log, he⟩ := s.ask_eq times
    rw [he]
    exact ⟨k, .refl k, h.script, h.stands, h.valid, h.builds⟩
  | close s session =>
    refine ⟨k, .refl k, h.script, h.stands, h.valid.congr (Network.options_close _ _), ?_⟩
    simpa [Supervisor.closeOutside, Supervisor.note, Event.concludes] using h.builds
  | shutdown _ => exact books_stop h
  | pass _ _ => exact ⟨k, .refl k, h.script, h.stands, h.valid, h.builds⟩
  | refault _ _ _ _ => exact ⟨k, .refl k, h.script, h.stands, h.valid.congr rfl, h.builds⟩

/-- Whatever happens from a moment on, its ledger is only continued. -/
theorem Reaches.books (h₀ : m₀.Books origin k) (h : Reaches m₀ m) :
    ∃ k', k.Extends k' ∧ m.Books origin k' := by
  refine h.keeps (P := fun m => ∃ k', k.Extends k' ∧ m.Books origin k') ?_ ⟨k, .refl k, h₀⟩
  intro m m' _ hn hb
  obtain ⟨k₁, hk₁, hb⟩ := hb
  obtain ⟨k₂, hk₂, hb'⟩ := hn.books hb
  exact ⟨k₂, hk₁.trans hk₂, hb'⟩

theorem books_first (l : Launch) : l.first.Books (.ofScript l.replies) ⟨0, [], []⟩ where
  script := rfl
  stands := ⟨rfl, rfl⟩
  valid := ⟨List.Sublist.refl _, List.Sublist.refl _, .nil⟩
  builds := rfl

end Moment

/-! ## Every run -/

/-- A bench with what a launch scripts, on which nothing was built yet. -/
def Launch.bench (l : Launch) : Bench where
  net := l.net
  source := .ofScript l.replies
  retry := l.setup.retry
  settings := l.setup.settings
  now := l.now

theorem books_bench (l : Launch) : l.bench.Books (.ofScript l.replies) ⟨0, [], []⟩ where
  script := rfl
  calls := rfl
  valid := ⟨List.Sublist.refl _, List.Sublist.refl _, .nil⟩

/-- A call that brings a key and is not in the ledger is one that a build still waits for. -/
theorem Supervisor.Stands.awaited {s : Supervisor} {origin : Source} {k : Ledger}
    (h : s.Stands origin k .wait) {call : Nat} (hlast : k.last < call)
    (hcall : call ≤ s.source.calls) (hok : (origin.result call).isOk = true) :
    call = s.source.calls ∧ ∃ p, s.phase = .building p := by
  simp only [Supervisor.Stands] at h
  split at h
  · rename_i p hp
    refine ⟨?_, p, hp⟩
    by_contra hne
    have hlt : call < s.source.calls := by omega
    have hfails := h.1.fails hlast hlt
    rw [hfails] at hok
    cases hok
  · omega
  · omega
  · omega

/-- While it was not stopped, a supervisor that waits has spent every key that came. -/
theorem Supervisor.Stands.spent_eq {s : Supervisor} {origin : Source} {k : Ledger}
    (h : s.Stands origin k .wait) (hs : s.isStopped = false) :
    k.spent = origin.granted k.last := by
  simp only [Supervisor.Stands] at h
  split at h
  · exact h.2
  · exact h.2
  · exact h.2
  · rename_i hp
    simp [Supervisor.isStopped, hp] at hs

/-- In every run of a supervisor, and in every row of builds by hand, each session was started with
the key of a call of its own, and later sessions with those of later calls. Every build that has its
key spends that key and no other. A key that started no session while it was waited for, because its
start failed or because nobody waited for it any longer, starts none later. -/
theorem keys_single_use (l : Launch) :
    let keys := Source.ofScript l.replies
    (∀ steps more, let s := l.run steps; let s' := l.run (steps ++ more)
      ∃ k k' : Ledger, k.Valid keys s.net ∧ k'.Valid keys s'.net ∧ k.Extends k' ∧
        k'.calls.Pairwise (· < ·) ∧ (∀ call ≤ k.last, call ∉ k.calls → call ∉ k'.calls) ∧
        k.spent.length = conclusions s.history ∧
        (s.isStopped = false → k.spent = keys.granted k.last) ∧
        ∀ call, k.last < call → call ≤ s.source.calls → (keys.result call).isOk = true →
          call = s.source.calls ∧ ∃ p, s.phase = .building p) ∧
    ∀ errands more, let b := l.bench.run errands; let b' := b.run more
      ∃ k k' : Ledger, k.Valid keys b.net ∧ k'.Valid keys b'.net ∧ k.Extends k' ∧
        k'.calls.Pairwise (· < ·) ∧ (∀ call ≤ k.last, call ∉ k.calls → call ∉ k'.calls) ∧
        k.spent.length = l.bench.keyed errands ∧ k.last = b.source.calls ∧
        ∀ deadline r, (b.build deadline).2 = some r →
          keys.granted (b.build deadline).1.source.calls =
            keys.granted b.source.calls ++ [(b.build deadline).1.source.calls] := by
  intro keys
  constructor
  · intro steps more s s'
    obtain ⟨k, -, hb⟩ := (Moment.reaches_run l steps).books (Moment.books_first l)
    have hmore : Moment.Reaches ⟨false, .wait, s⟩ ⟨false, .wait, s'⟩ := by
      have hself : Moment.Reaches ⟨false, .wait, s⟩ ⟨false, .wait, s⟩ := .refl
      have hr := hself.foldl more
      rwa [← run_append] at hr
    obtain ⟨k', hk, hb'⟩ := hmore.books hb
    refine ⟨k, k', hb.valid, hb'.valid, hk, hb'.valid.ordered, ?_, hb.builds, ?_, ?_⟩
    · exact fun call hle hn => hk.passed_over hle hn
    · exact hb.stands.spent_eq
    · exact fun call hlast hcall hok => hb.stands.awaited hlast hcall hok
  · intro errands more b b'
    obtain ⟨k, -, hb, hcount⟩ := (books_bench l).run errands
    obtain ⟨k', hk, hb', -⟩ := hb.run more
    refine ⟨k, k', hb.valid, hb'.valid, hk, hb'.valid.ordered, ?_, ?_, hb.calls.symm, ?_⟩
    · exact fun call hle hn => hk.passed_over hle hn
    · exact hcount.trans (Nat.zero_add _)
    · intro deadline r hr
      obtain ⟨later, -, hbuilt, hspends⟩ := hb.build deadline
      rw [hr] at hspends
      rw [hbuilt.calls, hb.calls]
      exact hspends.2

/-- The first key of a bench is spent on a start that fails, and no later session has it; that of a
plain launch is spent on its session. -/
theorem keys_single_use_plain :
    let b := Launch.plain.bench.run [.failNextStarts 1, .build 0]
    b.net.options = [] ∧ b.source.calls = 1 ∧
      (∃ k : Ledger, k.Valid (.ofScript []) (b.run [.build 0, .close 1, .build 9]).net ∧
        1 ∉ k.calls) ∧
      (Launch.plain.run []).isStopped = false ∧
      ∃ k : Ledger, k.Valid (.ofScript []) (Launch.plain.run []).net ∧ k.spent.length = 1 ∧
        k.spent = (Source.ofScript []).granted k.last := by
  intro b
  have hbench : b.net.options = [] ∧ b.source.calls = 1 := by
    show (Bench.build _ 0).1.net.options = [] ∧ (Bench.build _ 0).1.source.calls = 1
    unfold Bench.build
    rw [Source.obtain_of_result rfl (Nat.zero_le _)]
    exact ⟨rfl, rfl⟩
  have hplain : (Launch.plain.run []).isStopped = false ∧
      conclusions (Launch.plain.run []).history = 1 := by
    unfold Launch.run Launch.start Supervisor.start
    rw [Source.obtain_of_result rfl (Nat.zero_le _)]
    exact ⟨rfl, rfl⟩
  obtain ⟨hruns, hbuilds⟩ := keys_single_use .plain
  obtain ⟨k, k', hv, hv', -, -, hpassed, -, hlast, -⟩ :=
    hbuilds [.failNextStarts 1, .build 0] [.build 0, .close 1, .build 9]
  obtain ⟨k₁, -, hv₁, -, -, -, -, hcount, hspent, -⟩ := hruns [] []
  have hnone : 1 ∉ k.calls := by
    have hopened := hv.opened
    rw [hbench.1] at hopened
    rw [List.forall₂_nil_right_iff.1 hopened]
    exact List.not_mem_nil
  have hle : 1 ≤ k.last := by
    rw [hlast]
    exact Nat.le_of_eq hbench.2.symm
  refine ⟨hbench.1, hbench.2, ⟨k', hv', hpassed 1 hle hnone⟩, hplain.1, k₁, hv₁, ?_, ?_⟩
  · exact hcount.trans hplain.2
  · exact hspent hplain.1

end Tether.Agent
