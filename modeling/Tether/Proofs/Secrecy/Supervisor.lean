import Tether.Proofs.Secrecy.Network
import Tether.Proofs.Secrecy.Pursuit
import Tether.Proofs.Supervisor.Run

/-!
Supervisors that differ in their keys. Two supervisors are twins if their networks look alike under
their veils, their sources are alike, what they wait for is the same, and all the rest of them is
equal: what they publish, when they act, their records and their logs. Whatever a supervisor does
its twin does too, so two launches lead to twins behind all steps (`twin_run`).
-/

namespace Tether.Agent

open Tether.Control Tether.Overlay Tether.Sim

variable {P : String → String → Prop}

inductive Phase.Twin (P : String → String → Prop) : Phase → Phase → Prop
  | watching (deadline : Time.Span) : Twin P (.watching deadline) (.watching deadline)
  | building {p p' : Pursuit} (h : p.Twin P p') : Twin P (.building p) (.building p')
  | crashed : Twin P .crashed .crashed
  | stopped : Twin P .stopped .stopped

namespace Supervisor

/-- Two supervisors are the same but for the keys in their networks and sources, and the key that
they are about to get. -/
def Twin (P : String → String → Prop) (s s' : Supervisor) : Prop :=
  ∃ net source phase, s' = { s with net := net, source := source, phase := phase } ∧
    s.net.Twin P net ∧ s.source.Alike P source ∧ s.phase.Twin P phase

namespace Twin

variable {s s' : Supervisor}

/-! ## Records -/

theorem note (h : s.Twin P s') (e : Event) : (s.note e).Twin P (s'.note e) := by
  obtain ⟨net, source, phase, rfl, hn, hs, hp⟩ := h
  exact ⟨_, _, _, rfl, hn, hs, hp⟩

theorem tell (h : s.Twin P s') (e : Entry) : (s.tell e).Twin P (s'.tell e) := by
  obtain ⟨net, source, phase, rfl, hn, hs, hp⟩ := h
  exact ⟨_, _, _, rfl, hn, hs, hp⟩

theorem publish (h : s.Twin P s') (state : State) :
    (s.publish state).Twin P (s'.publish state) := by
  obtain ⟨net, source, phase, rfl, hn, hs, hp⟩ := h
  exact ⟨_, _, _, rfl, hn, hs, hp⟩

theorem publishSlot (h : s.Twin P s') (slot : Option Slot) :
    (s.publishSlot slot).Twin P (s'.publishSlot slot) := by
  obtain ⟨net, source, phase, rfl, hn, hs, hp⟩ := h
  exact ⟨_, _, _, rfl, hn, hs, hp⟩

theorem stoppedEntries (h : s.Twin P s') (id : Nat) :
    s'.stoppedEntries id = s.stoppedEntries id := by
  obtain ⟨net, source, phase, rfl, hn, -, -⟩ := h
  have hopen : net.isOpen id = s.net.isOpen id :=
    hn.told (f := (·.isOpen id)) fun n => n.isOpen_veil id
  unfold Supervisor.stoppedEntries
  dsimp only
  rw [hopen, hn.isListening]

theorem closeSession (h : s.Twin P s') (id : Nat) (e : Event) (entry : Overlay.Error → Entry) :
    (s.closeSession id e entry).Twin P (s'.closeSession id e entry) := by
  have hlog := h.stoppedEntries id
  obtain ⟨net, source, phase, rfl, hn, hs, hp⟩ := h
  obtain ⟨hclosed, htold⟩ := (Network.blind_close id).twin hn
  unfold Supervisor.closeSession
  dsimp only at htold ⊢
  rw [htold, hlog]
  exact ⟨_, _, _, rfl, hclosed, hs, hp⟩

/-! ## Building -/

theorem install (h : s.Twin P s') (session : Nat) :
    (s.install session).Twin P (s'.install session) := by
  obtain ⟨net, source, phase, rfl, hn, hs, hp⟩ := h
  exact ⟨_, _, _, rfl, hn, hs, hp⟩

theorem settleBuild (h : s.Twin P s') (built : Built) :
    (s.settleBuild built).Twin P (s'.settleBuild built) := by
  obtain ⟨net, source, phase, rfl, hn, hs, hp⟩ := h
  cases built <;> exact ⟨_, _, _, rfl, hn, hs, hp⟩

theorem finishBuild (h : s.Twin P s') {key key' : Key} (hkey : P key.text key'.text) :
    (s.finishBuild key).1.Twin P (s'.finishBuild key').1 ∧
      (s'.finishBuild key').2 = (s.finishBuild key).2 := by
  obtain ⟨net, source, phase, rfl, hn, hs, hp⟩ := h
  obtain ⟨hbuilt, hsame⟩ := hn.build s.setup.settings hkey
  unfold Supervisor.finishBuild
  dsimp only
  rw [hsame]
  refine ⟨settleBuild ?_ _, rfl⟩
  exact ⟨_, _, _, rfl, hbuilt, hs, hp⟩

theorem withdraw (h : s.Twin P s') : s.withdraw.Twin P s'.withdraw := by
  obtain ⟨net, source, phase, rfl, hn, hs, hp⟩ := h
  unfold Supervisor.withdraw
  dsimp only
  split
  · exact ⟨_, _, _, rfl, hn, hs, hp⟩
  · refine closeSession ?_ _ _ _
    exact ⟨_, _, _, rfl, hn, hs, hp⟩

theorem reconnect (h : s.Twin P s') : s.reconnect.Twin P s'.reconnect := by
  have hfallen := ((h.publish .unhealthy).withdraw).publish .connecting
  unfold Supervisor.reconnect
  generalize ((s.publish .unhealthy).withdraw).publish .connecting = t,
    ((s'.publish .unhealthy).withdraw).publish .connecting = t' at hfallen ⊢
  obtain ⟨net, source, phase, rfl, hn, hs, -⟩ := hfallen
  obtain ⟨hasked, hp⟩ := hs.ask t.now 1
  refine note ?_ .begun
  exact ⟨_, _, _, rfl, hn, hasked, .building hp⟩

theorem takeRequest (h : s.Twin P s') : s.takeRequest.Twin P s'.takeRequest := by
  obtain ⟨net, source, phase, rfl, hn, hs, hp⟩ := h
  refine reconnect ?_
  exact ⟨_, _, _, rfl, hn, hs, hp⟩

theorem isCalled (h : s.Twin P s') : s'.isCalled = s.isCalled := by
  obtain ⟨net, source, phase, rfl, -, -, hp⟩ := h
  unfold Supervisor.isCalled
  dsimp only
  generalize s.phase = watched at hp ⊢
  cases hp <;> rfl

theorem rest (h : s.Twin P s') : s.rest.Twin P s'.rest := by
  unfold Supervisor.rest
  rw [h.isCalled]
  split
  · exact h.takeRequest
  · exact h

theorem rearm (h : s.Twin P s') : s.rearm.Twin P s'.rearm := by
  obtain ⟨net, source, phase, rfl, hn, hs, -⟩ := h
  unfold Supervisor.rearm
  dsimp only
  split
  · refine rest ?_
    exact ⟨_, _, _, rfl, hn, hs, .watching _⟩
  · exact ⟨_, _, _, rfl, hn, hs, .crashed⟩

theorem conclude (h : s.Twin P s') (e : Option Error) :
    (s.conclude e).Twin P (s'.conclude e) := by
  obtain ⟨net, source, phase, rfl, hn, hs, hp⟩ := h
  cases e <;> exact ⟨_, _, _, rfl, hn, hs, hp⟩

theorem rebuild (h : s.Twin P s') {key key' : Key} (hkey : P key.text key'.text) :
    (s.rebuild key).Twin P (s'.rebuild key') := by
  obtain ⟨hbuilt, hsame⟩ := h.finishBuild hkey
  unfold Supervisor.rebuild
  rw [hsame]
  exact (hbuilt.conclude _).rearm

/-! ## Acting -/

theorem check (h : s.Twin P s') (deadline : Time.Span) :
    (s.check deadline).Twin P (s'.check deadline) := by
  obtain ⟨net, source, phase, rfl, hn, hs, hp⟩ := h
  obtain ⟨hchecked, hsame⟩ := (Network.blind_checkHealth s.current).twin hn
  have hentry : Supervisor.checkedEntry { s with net := net, source := source, phase := phase } =
      s.checkedEntry := by
    funext checked
    cases checked <;> rfl
  unfold Supervisor.check
  dsimp only at hsame ⊢
  rw [hsame, hentry]
  split
  · exact ⟨_, _, _, rfl, hchecked, hs, .watching _⟩
  · refine reconnect ?_
    exact ⟨_, _, _, rfl, hchecked, hs, hp⟩

theorem due (h : s.Twin P s') : s'.due? = s.due? := by
  obtain ⟨net, source, phase, rfl, -, -, hp⟩ := h
  unfold due?
  dsimp only
  generalize s.phase = phase₀ at hp
  cases hp with
  | building hp => exact congrArg some hp.due
  | watching _ | crashed | stopped => rfl

theorem act (h : s.Twin P s') : s.act.Twin P s'.act := by
  obtain ⟨net, source, phase, rfl, hn, hs, hp⟩ := h
  unfold Supervisor.act
  dsimp only
  generalize hphase : s.phase = phase₀ at hp
  cases hp with
  | watching deadline =>
    refine check ?_ deadline
    exact ⟨_, _, _, rfl, hn, hs, .watching _⟩
  | @building p p' hp =>
    have hdue := hp.due
    obtain ⟨hasked, hprogress, hlog⟩ := hp.act hs s.setup.retry
    dsimp only
    generalize p.act s.source s.setup.retry = acted, p'.act source s.setup.retry = acted' at *
    obtain ⟨source₁, progress, log⟩ := acted
    obtain ⟨source₁', progress', log'⟩ := acted'
    dsimp only at hasked hprogress hlog ⊢
    rw [hdue, hlog]
    cases hprogress with
    | pursuing hp₁ => exact ⟨_, _, _, rfl, hn, hasked, .building hp₁⟩
    | got hkey =>
      refine rebuild ?_ hkey
      exact ⟨_, _, _, rfl, hn, hasked, .building hp⟩
  | crashed => exact ⟨_, _, _, rfl, hn, hs, by rw [hphase]; exact .crashed⟩
  | stopped => exact ⟨_, _, _, rfl, hn, hs, by rw [hphase]; exact .stopped⟩

theorem runTo (h : s.Twin P s') (limit : Nat) : (s.runTo limit).Twin P (s'.runTo limit) := by
  fun_induction Supervisor.runTo s limit generalizing s' with
  | case1 s hd =>
    rw [runTo_idle (h.due.trans hd)]
    exact h
  | case2 s due hd hle ih =>
    rw [runTo_due (h.due.trans hd) hle]
    exact ih h.act
  | case3 s due hd hle =>
    rw [runTo_of_lt (h.due.trans hd) (Nat.lt_of_not_le hle)]
    exact h

/-! ## From the start on -/

theorem enter (h : s.Twin P s') : s.enter.Twin P s'.enter := by
  obtain ⟨net, source, phase, rfl, hn, hs, -⟩ := h
  unfold Supervisor.enter Supervisor.tell
  dsimp only
  split
  · exact ⟨_, _, _, rfl, hn, hs, .watching _⟩
  · exact ⟨_, _, _, rfl, hn, hs, .crashed⟩

theorem comeUp (h : s.Twin P s') {key key' : Key} (hkey : P key.text key'.text) :
    (s.comeUp key).1.Twin P (s'.comeUp key').1 ∧ (s'.comeUp key').2 = (s.comeUp key).2 := by
  obtain ⟨hbuilt, hsame⟩ := h.finishBuild hkey
  unfold Supervisor.comeUp
  generalize s.finishBuild key = built, s'.finishBuild key' = built' at *
  obtain ⟨t, e⟩ := built
  obtain ⟨t', e'⟩ := built'
  cases hsame
  cases e with
  | none => exact ⟨hbuilt.enter, rfl⟩
  | some e => exact ⟨(hbuilt.note .failed).publish .disconnected, rfl⟩

theorem start (setup : Setup) (net : Network) {source source' : Source}
    (hs : source.Alike P source') (hn : net.Twin P net) (now deadline : Nat) :
    (Supervisor.start setup net source now deadline).1.Twin P
        (Supervisor.start setup net source' now deadline).1 ∧
      (Supervisor.start setup net source' now deadline).2 =
        (Supervisor.start setup net source now deadline).2 := by
  obtain ⟨hsource, hprogress, hnow, hlog⟩ := hs.obtain setup.retry now deadline
  unfold Supervisor.start
  dsimp only
  generalize source.obtain setup.retry now deadline = run,
    source'.obtain setup.retry now deadline = run' at *
  obtain ⟨source₁, progress, time, log⟩ := run
  obtain ⟨source₁', progress', time', log'⟩ := run'
  dsimp only at *
  subst hnow hlog
  cases hprogress with
  | pursuing hp => exact ⟨⟨_, _, _, rfl, hn, hsource, .stopped⟩, rfl⟩
  | got hkey =>
    refine comeUp ?_ hkey
    exact ⟨_, _, _, rfl, hn, hsource, .stopped⟩

/-! ## Steps -/

theorem isStopped (h : s.Twin P s') : s'.isStopped = s.isStopped := by
  obtain ⟨net, source, phase, rfl, -, -, hp⟩ := h
  unfold Supervisor.isStopped
  dsimp only
  generalize s.phase = phase₀ at hp
  cases hp <;> rfl

theorem isAlive (h : s.Twin P s') : s'.isAlive = s.isAlive := by
  obtain ⟨net, source, phase, rfl, -, -, hp⟩ := h
  unfold Supervisor.isAlive
  dsimp only
  generalize s.phase = phase₀ at hp
  cases hp <;> rfl

theorem request (h : s.Twin P s') : s.request.Twin P s'.request := by
  have halive := h.isAlive
  obtain ⟨net, source, phase, rfl, hn, hs, hp⟩ := h
  unfold Supervisor.request
  rw [halive]
  dsimp only
  split
  · exact ⟨_, _, _, rfl, hn, hs, hp⟩
  · exact ⟨_, _, _, rfl, hn, hs, hp⟩

theorem react (h : s.Twin P s') : s.react.Twin P s'.react := by
  have htaken := h.takeRequest.runTo s.now
  have hkept := h
  obtain ⟨net, source, phase, rfl, hn, hs, hp⟩ := h
  unfold Supervisor.react
  dsimp only
  generalize hphase : s.phase = phase₀ at hp
  cases hp with
  | watching deadline =>
    dsimp only
    split
    · exact htaken
    · exact hkept
  | building _ | crashed | stopped => exact hkept

theorem requestTimes (h : s.Twin P s') (times : Nat) :
    (s.requestTimes times).Twin P (s'.requestTimes times) := by
  refine react ?_
  induction times with
  | zero => exact h
  | succ n ih =>
    rw [Nat.fold_succ, Nat.fold_succ]
    exact ih.request

theorem advance (h : s.Twin P s') (time : Nat) : (s.advance time).Twin P (s'.advance time) := by
  have hnow : s'.now = s.now := by
    obtain ⟨net, source, phase, rfl, -⟩ := h
    rfl
  have hrun := h.runTo (s.now + time)
  unfold Supervisor.advance
  rw [hnow]
  obtain ⟨net, source, phase, he, hn, hs, hp⟩ := hrun
  rw [he]
  exact ⟨_, _, _, rfl, hn, hs, hp⟩

theorem closeOutside (h : s.Twin P s') (id : Nat) :
    (s.closeOutside id).1.Twin P (s'.closeOutside id).1 ∧
      (s'.closeOutside id).2 = (s.closeOutside id).2 := by
  have hlog := h.stoppedEntries id
  obtain ⟨net, source, phase, rfl, hn, hs, hp⟩ := h
  obtain ⟨hclosed, htold⟩ := (Network.blind_close id).twin hn
  unfold Supervisor.closeOutside
  dsimp only at htold ⊢
  rw [htold, hlog]
  exact ⟨⟨_, _, _, rfl, hclosed, hs, hp⟩, rfl⟩

theorem onNet (h : s.Twin P s') {f : Network → Network} (hf : Network.Blind fun n => (f n, ())) :
    (s.onNet f).Twin P (s'.onNet f) := by
  obtain ⟨net, source, phase, rfl, hn, hs, hp⟩ := h
  exact ⟨_, _, _, rfl, (hf.twin hn).1, hs, hp⟩

theorem stop (h : s.Twin P s') : s.stop.Twin P s'.stop := by
  obtain ⟨net, source, phase, rfl, hn, hs, -⟩ := h
  unfold Supervisor.stop
  dsimp only
  split
  · exact ⟨_, _, _, rfl, hn, hs, .stopped⟩
  · refine closeSession ?_ _ _ _
    exact ⟨_, _, _, rfl, hn, hs, .stopped⟩

theorem perform (h : s.Twin P s') (x : Step) : (s.perform x).Twin P (s'.perform x) := by
  cases x with
  | advance time => exact h.advance time
  | reconnect times =>
    show Twin P (if s.isStopped then s else _) (if s'.isStopped then s' else _)
    rw [h.isStopped]
    split
    · exact h
    · exact h.requestTimes times
  | scriptHealth outcomes => exact h.onNet (Network.blind_scriptHealth outcomes)
  | failNextStarts count => exact h.onNet (Network.blind_failNextStarts count)
  | failListen fail => exact h.onNet (Network.blind_setFailListen fail)
  | close session => exact (h.closeOutside session).1
  | shutdown =>
    show Twin P (if s.isStopped then s else _) (if s'.isStopped then s' else _)
    rw [h.isStopped]
    split
    · exact h
    · exact h.stop

theorem steps (h : s.Twin P s') (steps : List Step) :
    (steps.foldl Supervisor.perform s).Twin P (steps.foldl Supervisor.perform s') :=
  List.foldl_rel h fun x _ _ _ h => h.perform x

end Twin

end Supervisor

/-- Launches with alike sources come to the same, and lead to twins behind all steps. -/
theorem twin_run (l : Launch) {replies : List Reply}
    (h : (Source.ofScript l.replies).Alike P (.ofScript replies)) (steps : List Step) :
    (l.run steps).Twin P (Launch.run { l with replies := replies } steps) ∧
      (Launch.start { l with replies := replies }).2 = l.start.2 := by
  obtain ⟨hstarted, hsame⟩ := Supervisor.Twin.start l.setup l.net h ⟨rfl, .nil⟩ l.now l.deadline
  exact ⟨hstarted.steps steps, hsame⟩

end Tether.Agent
