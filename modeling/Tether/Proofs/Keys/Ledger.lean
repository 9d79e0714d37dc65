import Tether.Control.Source
import Tether.Proofs.Lists
import Tether.Proofs.Openness

/-!
What becomes of the keys that a source brings. Calls are numbered from one, and a key is named by
its call, since two calls may bring the same text. A pursuit leaves a key alone only by failing to
get it: behind the last key that was used every call failed, up to the latest, whose answer is
still to come (`Pursuit.Behind`). A ledger says which calls brought the keys that builds were given,
and which of these the sessions on record were started with. It only grows, and by later calls
(`Ledger.Extends`), so a call that it passed over stays passed over: `Ledger.Extends.passed_over`.
-/

namespace Tether.Control

namespace Source

variable {s : Source} {last latest : Nat}

/-! ## The calls that bring a key -/

/-- The calls up to a number that bring a key, in their order. -/
def granted (s : Source) (upTo : Nat) : List Nat :=
  (List.range' 1 upTo).filter fun call => (s.result call).isOk

/-- Behind the call of one number no call brings a key, up to that of another. -/
def Barren (s : Source) (last latest : Nat) : Prop :=
  last ≤ latest ∧ ∀ call, last < call → call ≤ latest → (s.result call).isOk = false

/-- Behind the call of a number every call fails up to the latest, and that one brings this. -/
def Awaits (s : Source) (last latest : Nat) (r : Except Error Key) : Prop :=
  ∃ n, s.Barren last n ∧ latest = n + 1 ∧ s.result latest = r

theorem granted_succ (s : Source) (n : Nat) :
    s.granted (n + 1) = s.granted n ++ if (s.result (n + 1)).isOk then [n + 1] else [] := by
  unfold granted
  rw [List.range'_1_concat, List.filter_append, List.filter_singleton, Nat.add_comm 1 n]
  cases (s.result (n + 1)).isOk <;> rfl

theorem granted_sublist (s : Source) {m n : Nat} (h : m ≤ n) :
    (s.granted m).Sublist (s.granted n) := by
  induction h with
  | refl => exact List.Sublist.refl _
  | @step n h ih =>
    rw [granted_succ]
    exact ih.trans (List.sublist_append_left _ _)

theorem granted_pairwise (s : Source) (n : Nat) : (s.granted n).Pairwise (· < ·) :=
  List.Pairwise.filter _ List.pairwise_lt_range'

theorem Barren.refl (s : Source) (n : Nat) : s.Barren n n := by
  refine ⟨Nat.le_refl n, ?_⟩
  intro call hlt hle
  omega

theorem Barren.granted_eq (h : s.Barren last latest) : s.granted latest = s.granted last := by
  obtain ⟨hle, hfail⟩ := h
  induction hle with
  | refl => rfl
  | @step n hle ih =>
    have hn : (s.result (n + 1)).isOk = false :=
      hfail (n + 1) (Nat.lt_succ_of_le hle) (Nat.le_refl _)
    have hrest : s.granted n = s.granted last :=
      ih fun call hlt hc => hfail call hlt (by omega)
    rw [granted_succ, hn, hrest]
    exact List.append_nil _

namespace Awaits

theorem lt {r : Except Error Key} (h : s.Awaits last latest r) : last < latest := by
  obtain ⟨n, ⟨hle, -⟩, rfl, -⟩ := h
  omega

/-- A key that comes is the only one behind the last. -/
theorem granted_eq {key : Key} (h : s.Awaits last latest (.ok key)) :
    s.granted latest = s.granted last ++ [latest] := by
  obtain ⟨n, hb, rfl, hr⟩ := h
  rw [granted_succ, hr, hb.granted_eq]
  rfl

theorem barren {e : Error} (h : s.Awaits last latest (.error e)) : s.Barren last latest := by
  obtain ⟨n, ⟨hle, hfail⟩, rfl, hr⟩ := h
  refine ⟨by omega, ?_⟩
  intro call hlt hc
  by_cases he : call = n + 1
  · rw [he, hr]
    rfl
  · exact hfail call hlt (by omega)

end Awaits

end Source

namespace Pursuit

/-- A pursuit that began behind the call of a number has found no key, up to the latest call. -/
def Behind (p : Pursuit) (s : Source) (last latest : Nat) : Prop :=
  match p.stage with
  | .asking r => s.Awaits last latest r
  | .resting => s.Barren last latest

end Pursuit

/-- What a pursuit came to that began behind the call of a number. -/
def Progress.Behind (progress : Progress) (s : Source) (last latest : Nat) : Prop :=
  match progress with
  | .pursuing p => p.Behind s last latest
  | .got key => s.Awaits last latest (.ok key)

namespace Pursuit

variable {p : Pursuit} {origin source : Source} {last : Nat}

theorem Behind.le {latest : Nat} (h : p.Behind origin last latest) : last ≤ latest := by
  unfold Behind at h
  split at h
  · exact Nat.le_of_lt h.lt
  · exact h.1

theorem Behind.fails {latest : Nat} (h : p.Behind origin last latest) {call : Nat}
    (hlast : last < call) (hcall : call < latest) : (origin.result call).isOk = false := by
  unfold Behind at h
  split at h
  · obtain ⟨n, ⟨-, hfail⟩, rfl, -⟩ := h
    exact hfail call hlast (by omega)
  · exact h.2 call hlast (by omega)

/-- To ask is to wait for the call that comes next. -/
theorem behind_ask (hs : source.script = origin.script) (h : origin.Barren last source.calls)
    (now attempt : Nat) :
    (source.ask now attempt).2.Behind origin last (source.ask now attempt).1.calls := by
  have hcalls : (source.ask now attempt).1.calls = source.calls + 1 :=
    List.length_append
  have hresult : origin.result (source.calls + 1) = source.result (source.calls + 1) := by
    unfold Source.result Source.reply
    rw [hs]
  refine ⟨source.calls, h, hcalls, ?_⟩
  rw [hcalls]
  exact hresult

/-- A pursuit that goes on asks again, or has seen a call fail, or has its key. -/
theorem Behind.act (h : p.Behind origin last source.calls)
    (hs : source.script = origin.script) (retry : Time.Span) :
    (p.act source retry).1.script = origin.script ∧
      (p.act source retry).2.1.Behind origin last (p.act source retry).1.calls := by
  unfold Behind at h
  unfold Pursuit.act
  cases hp : p.stage with
  | resting =>
    -- the latest call had failed, so the next one is the first that may bring a key
    simp only [hp] at h
    exact ⟨hs, behind_ask hs h p.due (p.attempt + 1)⟩
  | asking r =>
    simp only [hp] at h
    cases r with
    | ok key => exact ⟨hs, h⟩
    | error e => exact ⟨hs, h.barren⟩

/-- However long it goes on, a pursuit has found no key before the one it ends with. -/
theorem Behind.run (h : p.Behind origin last source.calls) (hs : source.script = origin.script)
    (retry : Time.Span) (limit : Nat) (log : List Entry) :
    (p.run source retry limit log).source.script = origin.script ∧
      (p.run source retry limit log).progress.Behind origin last
        (p.run source retry limit log).source.calls := by
  fun_induction Pursuit.run p source retry limit log with
  | case1 p source log hle source' key entries ha =>
    have hacted := h.act hs retry
    rw [ha] at hacted
    exact hacted
  | case2 p source log hle source' p' entries ha ih =>
    have hacted := h.act hs retry
    rw [ha] at hacted
    exact ih hacted.2 hacted.1
  | case3 p source log hle => exact ⟨hs, h⟩

/-- Whoever asks behind the last key gets no key but the one that the pursuit ends with. -/
theorem behind_obtain (hs : source.script = origin.script) (h : origin.Barren last source.calls)
    (retry : Time.Span) (now limit : Nat) :
    (source.obtain retry now limit).source.script = origin.script ∧
      (source.obtain retry now limit).progress.Behind origin last
        (source.obtain retry now limit).source.calls :=
  (behind_ask hs h now 1).run hs retry limit []

end Pursuit

end Tether.Control

namespace Tether.Sim.Network

open Tether.Agent Tether.Control Tether.Overlay

/-! ## The options of the sessions on record -/

/-- What the sessions were started with, in their order. -/
def options (n : Network) : List Options := n.sessions.map Session.options

theorem options_congr {n n' : Network} (h : n'.sessions = n.sessions) : n'.options = n.options := by
  unfold options
  rw [h]

theorem options_modifySession {f : Session → Session} (hf : ∀ s, (f s).options = s.options)
    (n : Network) (id : Nat) : (n.modifySession id f).options = n.options := by
  cases id with
  | zero => rfl
  | succ i => exact map_modify_same hf n.sessions i

theorem options_setFallback (n : Network) (id : Nat) (f : Fallback) :
    (n.setFallback id f).options = n.options :=
  options_modifySession (f := ({ · with fallback := some f })) (fun _ => rfl) n id

theorem options_close (n : Network) (id : Nat) : (n.close id).1.options = n.options := by
  unfold close
  split
  · exact options_modifySession (f := Session.close) (fun _ => rfl) n id
  · rfl

theorem options_listen (n : Network) (id : Nat) (port : UInt16) :
    (n.listen id port).1.options = n.options := by
  unfold listen
  split
  · rfl
  · split
    · rfl
    · exact options_modifySession (f := (·.assign port n.listeners.length)) (fun _ => rfl) n id

/-- A start that fails starts nothing, and one that succeeds starts a session with its options. -/
theorem options_start (n : Network) (o : Options) :
    (n.start o).1.options = n.options ++ if (n.start o).2.isOk then [o] else [] := by
  obtain ⟨cause, hr, hs⟩ | ⟨hr, hs⟩ := n.start_cases o
  · rw [options_congr hs, hr]
    exact (List.append_nil _).symm
  · rw [hr]
    show (n.start o).1.sessions.map Session.options = _
    rw [hs, List.map_append]
    rfl

end Tether.Sim.Network

namespace Tether.Agent

open Tether.Control Tether.Overlay Tether.Sim

/-- The build started a session. -/
def Built.started : Built → Bool
  | .notStarted _ => false
  | .halfBuilt _ _ | .ready _ _ => true

/-- A build starts one session with its key, or none. -/
theorem options_build (n : Network) (settings : Settings) (key : Key) :
    (build n settings key).1.options =
      n.options ++ if (build n settings key).2.started then [settings.options key] else [] := by
  have hs := n.options_start (settings.options key)
  unfold build
  generalize n.start (settings.options key) = started at hs ⊢
  obtain ⟨net, cause | id⟩ := started
  · exact hs
  · have hl := (net.setFallback id .relay).options_listen id settings.livenessPort
    rw [Network.options_setFallback] at hl
    rcases hheard : (net.setFallback id .relay).listen id settings.livenessPort with
      ⟨net', cause | listener⟩
    · rw [hheard] at hl
      simp only [hheard]
      exact (net'.options_close id).trans (hl.trans hs)
    · rw [hheard] at hl
      simp only [hheard]
      exact hl.trans hs

/-! ## The ledger -/

/-- A session was started with the key that a call brought. -/
def Opens (origin : Source) (call : Nat) (o : Options) : Prop :=
  ∃ key, origin.result call = .ok key ∧ o.authKey = key.text

/-- What became of the calls up to some number. -/
structure Ledger where
  /-- Nobody waits for this call or an earlier one. -/
  last : Nat
  /-- The calls whose keys builds were given. -/
  spent : List Nat
  /-- The calls whose keys sessions were started with. -/
  calls : List Nat

namespace Ledger

variable {k k' k'' : Ledger} {origin : Source} {net net' : Network}

/-- Every key that was spent was brought by a call of its own, and the sessions on record were
started with keys that were spent, in the order of the calls. -/
structure Valid (k : Ledger) (origin : Source) (net : Network) : Prop where
  granted : k.spent.Sublist (origin.granted k.last)
  spent : k.calls.Sublist k.spent
  opened : List.Forall₂ (Opens origin) k.calls net.options

/-- What a ledger gains it gains by calls that come later. -/
structure Extends (k k' : Ledger) : Prop where
  last : k.last ≤ k'.last
  spent : ∃ more, k'.spent = k.spent ++ more ∧ ∀ call ∈ more, k.last < call
  calls : ∃ more, k'.calls = k.calls ++ more ∧ ∀ call ∈ more, k.last < call

theorem Valid.ordered (h : k.Valid origin net) : k.calls.Pairwise (· < ·) :=
  (origin.granted_pairwise k.last).sublist (h.spent.trans h.granted)

theorem Valid.congr (h : k.Valid origin net) (hn : net'.options = net.options) :
    k.Valid origin net' := by
  refine ⟨h.granted, h.spent, ?_⟩
  rw [hn]
  exact h.opened

theorem Extends.refl (k : Ledger) : k.Extends k := by
  have hnone : ∀ xs : List Nat, ∃ more, xs = xs ++ more ∧ ∀ call ∈ more, k.last < call :=
    fun xs => ⟨[], (List.append_nil xs).symm, by simp⟩
  exact ⟨Nat.le_refl _, hnone _, hnone _⟩

theorem later_append {a b : Nat} (hab : a ≤ b) {xs ys zs : List Nat}
    (h : ∃ more, ys = xs ++ more ∧ ∀ call ∈ more, a < call)
    (h' : ∃ more, zs = ys ++ more ∧ ∀ call ∈ more, b < call) :
    ∃ more, zs = xs ++ more ∧ ∀ call ∈ more, a < call := by
  obtain ⟨more, rfl, hmore⟩ := h
  obtain ⟨more', rfl, hmore'⟩ := h'
  refine ⟨more ++ more', List.append_assoc _ _ _, ?_⟩
  intro call hc
  obtain hc | hc := List.mem_append.1 hc
  · exact hmore call hc
  · exact Nat.lt_of_le_of_lt hab (hmore' call hc)

theorem Extends.trans (h : k.Extends k') (h' : k'.Extends k'') : k.Extends k'' :=
  ⟨Nat.le_trans h.last h'.last, later_append h.last h.spent h'.spent,
    later_append h.last h.calls h'.calls⟩

/-- A call that started no session while it was waited for never starts one. -/
theorem Extends.passed_over (h : k.Extends k') {call : Nat} (hle : call ≤ k.last)
    (hn : call ∉ k.calls) : call ∉ k'.calls := by
  obtain ⟨more, he, hmore⟩ := h.calls
  intro hc
  rw [he] at hc
  obtain hc | hc := List.mem_append.1 hc
  · exact hn hc
  · have hlt := hmore call hc
    omega

/-- Nobody waits any longer for the calls up to a number. -/
def leave (k : Ledger) (latest : Nat) : Ledger := { k with last := latest }

theorem Valid.leave (h : k.Valid origin net) {latest : Nat} (hle : k.last ≤ latest) :
    (k.leave latest).Valid origin net :=
  ⟨h.granted.trans (origin.granted_sublist hle), h.spent, h.opened⟩

theorem extends_leave {latest : Nat} (hle : k.last ≤ latest) : k.Extends (k.leave latest) :=
  ⟨hle, (Extends.refl k).spent, (Extends.refl k).calls⟩

/-- The key of a call is spent, and starts a session or does not. -/
def spend (k : Ledger) (latest : Nat) (started : Bool) : Ledger where
  last := latest
  spent := k.spent ++ [latest]
  calls := k.calls ++ if started then [latest] else []

theorem extends_spend {latest : Nat} (hlt : k.last < latest) (started : Bool) :
    k.Extends (k.spend latest started) := by
  have hone : ∀ call ∈ [latest], k.last < call := by
    intro call hc
    rwa [List.mem_singleton.1 hc]
  refine ⟨Nat.le_of_lt hlt, ⟨[latest], rfl, hone⟩, ⟨_, rfl, ?_⟩⟩
  cases started with
  | true => exact hone
  | false => simp

theorem Valid.spend {latest : Nat} {key : Key} (h : k.Valid origin net)
    (hw : origin.Awaits k.last latest (.ok key)) {o : Options} (ho : o.authKey = key.text)
    (started : Bool) (hn : net'.options = net.options ++ if started then [o] else []) :
    (k.spend latest started).Valid origin net' := by
  refine ⟨?_, ?_, ?_⟩
  · show (k.spent ++ [latest]).Sublist (origin.granted latest)
    rw [hw.granted_eq]
    exact h.granted.append (List.Sublist.refl _)
  · refine h.spent.append ?_
    cases started with
    | true => exact List.Sublist.refl _
    | false => exact List.nil_sublist _
  · rw [hn]
    refine List.rel_append h.opened ?_
    cases started with
    | true =>
      obtain ⟨n, -, -, hr⟩ := hw
      exact .cons ⟨key, hr, ho⟩ .nil
    | false => exact .nil

end Ledger

end Tether.Agent
