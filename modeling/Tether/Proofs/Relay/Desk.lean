import Mathlib.Data.List.Induction
import Mathlib.Data.List.Nodup
import Mathlib.Data.List.Perm.Basic
import Tether.Proofs.Lists
import Tether.Relay.Tracker

/-!
Trackers as books under fresh numbers. What a tracker answers is read off the requests that were
made of it: the registrations are numbered in the order in which they came, and a record is live
from its registration until a later request strikes out its number (`Tracker.live`). A tracker that
served some requests has the live records on its list and the number of registrations as its
counter (`Tracker.after_keeps`), so a number that is not live strikes out nothing and no number is
given twice. `Desk` holds several trackers, each reached through any number of clones; every one of
them behaves as if it had been alone with the requests made through its clones
(`Desk.Served.perform`). `trackers_refine_live` puts the two together.
-/

namespace Tether.Relay

open scoped List

namespace Tracker

/-! ## Requests -/

/-- What is asked of a tracker. -/
inductive Request
  | register (record : Record)
  | unregister (id : Nat)
  | count
  | list
  deriving DecidableEq, Repr

/-- What a tracker answers. -/
inductive Answer
  /-- A relay was registered under this number. -/
  | number (id : Nat)
  | done
  | count (relays : Nat)
  | list (records : List Record)
  deriving DecidableEq, Repr

/-- The number that an answer gives to a relay. -/
def Answer.number? : Answer → Option Nat
  | .number id => some id
  | .done | .count _ | .list _ => none

/-- Serves a request. -/
def serve (t : Tracker) : Request → Tracker × Answer
  | .register r => ((t.register r).1, .number (t.register r).2)
  | .unregister id => (t.unregister id, .done)
  | .count => (t, .count t.count)
  | .list => (t, .list t.records)

/-- A tracker that served some requests, oldest first. -/
def after (qs : List Request) : Tracker := qs.foldl (fun t q => (t.serve q).1) .empty

theorem after_concat (qs : List Request) (q : Request) :
    after (qs ++ [q]) = ((after qs).serve q).1 := by
  simp [after, List.foldl_append]

/-! ## What the requests say -/

/-- The registrations among some requests, behind so many earlier ones: the number of each, its
record, and what was asked behind it. -/
def registrations : Nat → List Request → List (Nat × Record × List Request)
  | _, [] => []
  | n, .register r :: qs => (n + 1, r, qs) :: registrations (n + 1) qs
  | n, .unregister _ :: qs | n, .count :: qs | n, .list :: qs => registrations n qs

/-- The records that were registered and not struck out since, under their numbers. -/
def live (qs : List Request) : List (Nat × Record) :=
  ((registrations 0 qs).filter fun x => .unregister x.1 ∉ x.2.2).map fun x => (x.1, x.2.1)

/-- The number of registrations among some requests. -/
def registered (qs : List Request) : Nat := (registrations 0 qs).length

/-- The numbers run on from the earlier ones, whatever is struck out in between. -/
theorem numbers_eq (n : Nat) (qs : List Request) :
    (registrations n qs).map Prod.fst = List.range' (n + 1) (registrations n qs).length := by
  induction qs generalizing n with
  | nil => rfl
  | cons q qs ih =>
    cases q with
    | register r => simp [registrations, List.range'_succ, ih]
    | unregister _ | count | list => exact ih n

/-- A request behind the others is asked behind each of their registrations. -/
theorem registrations_concat (n : Nat) (qs : List Request) (q : Request) :
    registrations n (qs ++ [q]) =
      (registrations n qs).map (fun x => (x.1, x.2.1, x.2.2 ++ [q])) ++
        registrations (n + (registrations n qs).length) [q] := by
  induction qs generalizing n with
  | nil => simp [registrations]
  | cons p qs ih =>
    cases p with
    | register r =>
      have hn : n + 1 + (registrations (n + 1) qs).length =
          n + ((registrations (n + 1) qs).length + 1) := by omega
      simp [registrations, ih, hn]
    | unregister _ | count | list => exact ih n

theorem registered_concat (qs : List Request) (q : Request) :
    registered (qs ++ [q]) = registered qs + (registrations (registered qs) [q]).length := by
  simp [registered, registrations_concat]

theorem live_register (qs : List Request) (r : Record) :
    live (qs ++ [.register r]) = live qs ++ [(registered qs + 1, r)] := by
  have hlast : registrations (registered qs) [.register r] = [(registered qs + 1, r, [])] := rfl
  unfold registered at hlast ⊢
  unfold live
  rw [registrations_concat, Nat.zero_add, hlast, List.filter_append, List.map_append,
    List.filter_map, List.map_map]
  congr 1
  refine congrArg (List.map _) (List.filter_congr fun x _ => ?_)
  simp

theorem live_unregister (qs : List Request) (id : Nat) :
    live (qs ++ [.unregister id]) = (live qs).filter fun x => x.1 ≠ id := by
  unfold live
  rw [registrations_concat, List.filter_append, List.filter_map, List.filter_map, List.filter_filter,
    List.map_append, List.map_map]
  have hnone : registrations (0 + (registrations 0 qs).length) [.unregister id] = [] := rfl
  rw [hnone, List.filter_nil, List.map_nil, List.append_nil]
  refine congrArg (List.map _) (List.filter_congr fun x _ => ?_)
  rw [Bool.and_comm]
  simp [eq_comm]

theorem live_look (qs : List Request) {q : Request} (hq : q = .count ∨ q = .list) :
    live (qs ++ [q]) = live qs := by
  have hnone : registrations (0 + (registrations 0 qs).length) [q] = [] := by
    rcases hq with rfl | rfl <;> rfl
  unfold live
  rw [registrations_concat, hnone, List.append_nil, List.filter_map, List.map_map]
  refine congrArg (List.map _) (List.filter_congr fun x _ => ?_)
  rcases hq with rfl | rfl <;> simp

/-- Every number that is live was given. -/
theorem le_registered {qs : List Request} {x : Nat × Record} (hx : x ∈ live qs) :
    1 ≤ x.1 ∧ x.1 ≤ registered qs := by
  obtain ⟨y, hy, rfl⟩ := List.mem_map.1 hx
  have hmem : y.1 ∈ (registrations 0 qs).map Prod.fst :=
    List.mem_map_of_mem (List.mem_of_mem_filter hy)
  rw [numbers_eq, List.mem_range'_1] at hmem
  unfold registered
  dsimp only
  omega

/-! ## What a tracker holds -/

/-- A tracker counts the registrations and lists the live records, oldest first. -/
theorem after_keeps (qs : List Request) :
    (after qs).last = registered qs ∧ (after qs).relays = live qs := by
  induction qs using List.reverseRecOn with
  | nil => exact ⟨rfl, rfl⟩
  | append_singleton qs q ih =>
    obtain ⟨hlast, hrelays⟩ := ih
    rw [after_concat, registered_concat]
    cases q with
    | register r =>
      rw [live_register]
      exact ⟨by simp [serve, hlast, registrations], by simp [serve, hlast, hrelays]⟩
    | unregister id =>
      rw [live_unregister]
      exact ⟨by simp [serve, hlast, registrations], by simp [serve, hrelays]⟩
    | count =>
      rw [live_look qs (.inl rfl)]
      exact ⟨by simp [serve, hlast, registrations], by simp [serve, hrelays]⟩
    | list =>
      rw [live_look qs (.inr rfl)]
      exact ⟨by simp [serve, hlast, registrations], by simp [serve, hrelays]⟩

/-- To strike out a number that is not in the book changes nothing. -/
theorem unregister_of_not_mem {t : Tracker} {id : Nat} (h : id ∉ t.relays.map Prod.fst) :
    t.unregister id = t := by
  have hall : t.relays.filter (fun e => e.1 ≠ id) = t.relays := by
    refine List.filter_eq_self.2 fun x hx => ?_
    rw [decide_eq_true_eq]
    rintro rfl
    exact h (List.mem_map_of_mem hx)
  unfold unregister
  rw [hall]

end Tracker

/-! ## Several trackers -/

open Tracker

/-- Some trackers, and for each clone the place of the tracker that it shares. -/
structure Desk where
  trackers : List Tracker
  clones : List Nat
  deriving DecidableEq, Repr

namespace Desk

/-- What is done at a desk. -/
inductive Act
  /-- A new tracker, with its first clone. -/
  | create
  /-- Another clone of the tracker that a clone shares. -/
  | clone (clone : Nat)
  /-- A request through a clone. -/
  | ask (clone : Nat) (request : Request)
  deriving DecidableEq, Repr

/-- The desk behind an act. -/
def perform (d : Desk) : Act → Desk
  | .create => ⟨d.trackers ++ [.empty], d.clones ++ [d.trackers.length]⟩
  | .clone c => { d with clones := d.clones ++ d.clones[c]?.toList }
  | .ask c q =>
    match d.clones[c]? with
    | some i => { d with trackers := d.trackers.modify i fun t => (t.serve q).1 }
    | none => d

/-- What a request through a clone is answered. -/
def answer (d : Desk) (c : Nat) (q : Request) : Option Answer :=
  (d.clones[c]?.bind (d.trackers[·]?)).map fun t => (t.serve q).2

/-- A desk without trackers. -/
def empty : Desk := ⟨[], []⟩

/-- The desk behind some acts, oldest first. -/
def run (acts : List Act) : Desk := acts.foldl perform empty

/-- The request that an act makes of the tracker at a place. -/
def request? (d : Desk) (i : Nat) : Act → Option Request
  | .ask c q => if d.clones[c]? = some i then some q else none
  | .create | .clone _ => none

/-- The requests that acts make of the tracker at a place, through whichever clone. -/
def asked (d : Desk) (i : Nat) : List Act → List Request
  | [] => []
  | x :: xs => (d.request? i x).toList ++ (d.perform x).asked i xs

theorem run_concat (acts : List Act) (x : Act) : run (acts ++ [x]) = (run acts).perform x := by
  simp [run, List.foldl_append]

theorem asked_concat (d : Desk) (i : Nat) (acts : List Act) (x : Act) :
    d.asked i (acts ++ [x]) = d.asked i acts ++ ((acts.foldl perform d).request? i x).toList := by
  induction acts generalizing d with
  | nil => simp [asked]
  | cons y acts ih => simp [asked, ih]

/-- Each tracker is what it would be if its own requests were all there are. -/
structure Serves (d : Desk) (qs : Nat → List Request) : Prop where
  tracker : ∀ i t, d.trackers[i]? = some t → t = after (qs i)
  /-- Nothing was asked of a tracker that does not exist yet. -/
  fresh : ∀ i, d.trackers.length ≤ i → qs i = []
  clone_lt : ∀ c i : Nat, d.clones[c]? = some i → i < d.trackers.length

variable {d : Desk} {qs : Nat → List Request} {c i : Nat}

theorem perform_ask (hc : d.clones[c]? = some i) (q : Request) :
    d.perform (.ask c q) = { d with trackers := d.trackers.modify i fun t => (t.serve q).1 } := by
  simp only [perform, hc]

/-- A request goes to the tracker of its clone, and no other tracker hears of it. -/
theorem Serves.ask (h : d.Serves qs) (hc : d.clones[c]? = some i) (q : Request) :
    (d.perform (.ask c q)).Serves fun j => qs j ++ (d.request? j (.ask c q)).toList := by
  rw [perform_ask hc]
  refine ⟨?_, ?_, ?_⟩
  · intro j t ht
    simp only [List.getElem?_modify, request?, hc, Option.some.injEq] at ht ⊢
    by_cases hj : i = j
    · subst hj
      obtain ⟨t', ht', rfl⟩ := Option.map_eq_some_iff.1 ht
      rw [h.tracker i t' ht']
      simpa using (after_concat (qs i) q).symm
    · simpa [hj] using h.tracker j t (by simpa [hj] using ht)
  · intro j hj
    rw [List.length_modify] at hj
    have hne : i ≠ j := Nat.ne_of_lt (Nat.lt_of_lt_of_le (h.clone_lt c i hc) hj)
    simp [request?, hc, hne, h.fresh j hj]
  · intro c' j hj
    rw [List.length_modify]
    exact h.clone_lt c' j hj

theorem Serves.perform (h : d.Serves qs) (x : Act) :
    (d.perform x).Serves fun j => qs j ++ (d.request? j x).toList := by
  cases x with
  | create =>
    simp only [request?, Option.toList_none, List.append_nil]
    refine ⟨?_, ?_, ?_⟩
    · intro j t ht
      rcases Nat.lt_or_ge j d.trackers.length with hj | hj
      · exact h.tracker j t (by simpa [Desk.perform, List.getElem?_append_left hj] using ht)
      · -- the new tracker has served nothing
        rw [h.fresh j hj]
        have hnew : [Tracker.empty][j - d.trackers.length]? = some t := by
          simpa [Desk.perform, List.getElem?_append_right hj] using ht
        exact (List.mem_singleton.1 (List.mem_of_getElem? hnew))
    · intro j hj
      exact h.fresh j (Nat.le_of_succ_le (by simpa [Desk.perform] using hj))
    · intro c j hj
      have hlen : (d.perform .create).trackers.length = d.trackers.length + 1 := by
        simp [Desk.perform]
      rw [hlen]
      rcases List.mem_append.1 (List.mem_of_getElem? hj) with hj | hj
      · obtain ⟨c', hc'⟩ := List.mem_iff_getElem?.1 hj
        exact Nat.lt_succ_of_lt (h.clone_lt c' j hc')
      · rw [List.mem_singleton.1 hj]
        exact Nat.lt_succ_self _
  | clone c =>
    simp only [request?, Option.toList_none, List.append_nil]
    refine ⟨h.tracker, h.fresh, ?_⟩
    intro c' j hj
    rcases List.mem_append.1 (List.mem_of_getElem? hj) with hj | hj
    · obtain ⟨c'', hc''⟩ := List.mem_iff_getElem?.1 hj
      exact h.clone_lt c'' j hc''
    · exact h.clone_lt c j (Option.mem_toList.1 hj)
  | ask c q =>
    cases hc : d.clones[c]? with
    | some i => exact h.ask hc q
    | none => simpa [Desk.perform, request?, hc] using h

/-- Behind all acts each tracker has served just the requests that were made of it. -/
theorem serves_run (acts : List Act) : (run acts).Serves fun i => asked empty i acts := by
  induction acts using List.reverseRecOn with
  | nil => exact ⟨nofun, fun _ _ => rfl, nofun⟩
  | append_singleton acts x ih =>
    rw [run_concat]
    simp only [asked_concat]
    exact ih.perform x

/-- The tracker of a clone has served the requests that were made of it. -/
theorem tracker_of_clone {acts : List Act} (hc : (run acts).clones[c]? = some i) :
    (run acts).trackers[i]? = some (after (asked empty i acts)) := by
  have hs := serves_run acts
  obtain ⟨t, ht⟩ : ∃ t, (run acts).trackers[i]? = some t :=
    ⟨_, List.getElem?_eq_getElem (hs.clone_lt c i hc)⟩
  rw [ht, hs.tracker i t ht]

theorem answer_eq {acts : List Act} (hc : (run acts).clones[c]? = some i) (q : Request) :
    (run acts).answer c q = some ((after (asked empty i acts)).serve q).2 := by
  simp [answer, hc, tracker_of_clone hc]

/-- What a clone is told of the list is what is live on its tracker. -/
theorem answer_list {acts : List Act} (hc : (run acts).clones[c]? = some i) :
    (run acts).answer c .list =
      some (.list ((live (asked empty i acts)).map Prod.snd)) := by
  rw [answer_eq hc]
  simp [serve, Tracker.records, (after_keeps _).2]

/-- A request that leaves its tracker as it is changes nothing. -/
theorem perform_ask_same {t : Tracker} {q : Request} (hc : d.clones[c]? = some i)
    (ht : d.trackers[i]? = some t) (hq : (t.serve q).1 = t) : d.perform (.ask c q) = d := by
  obtain ⟨front, back, hd, -, hm⟩ := exists_split ht
  rw [perform_ask hc, hm, hq, ← hd]

/-- No request changes a tracker other than that of its clone. -/
theorem trackers_ask_other (hc : d.clones[c]? = some i) (q : Request) {j : Nat} (hj : j ≠ i) :
    (d.perform (.ask c q)).trackers[j]? = d.trackers[j]? := by
  rw [perform_ask hc, List.getElem?_modify]
  simp [Ne.symm hj]

/-- An act at a desk leaves the clones that are there alone. -/
theorem clones_perform (hc : d.clones[c]? = some i) (x : Act) :
    (d.perform x).clones[c]? = some i := by
  have hlt : c < d.clones.length := (List.getElem?_eq_some_iff.1 hc).1
  cases x with
  | create => simpa [perform, List.getElem?_append_left hlt] using hc
  | clone c' => simpa [perform, List.getElem?_append_left hlt] using hc
  | ask c' q =>
    unfold perform
    dsimp only
    split <;> exact hc

/-- A request through a clone is made of its tracker, and of no other. -/
theorem asked_ask {acts : List Act} (hc : (run acts).clones[c]? = some i) (q : Request) (j : Nat) :
    asked empty j (acts ++ [.ask c q]) =
      asked empty j acts ++ (if j = i then [q] else []) := by
  rw [asked_concat]
  congr 1
  change ((run acts).request? j (.ask c q)).toList = _
  simp only [request?, hc, Option.some.injEq, eq_comm (a := i)]
  split <;> rfl

end Desk

/-- Whatever was done with several trackers through their clones, a clone of a tracker answers for
the requests made of that tracker, and for nothing else. A registration gets the number behind the
registrations so far, which was given to none before and fits 64 bits while those are fewer than
that; the list holds the records that were registered and not struck out since, and the count is
their number. To strike out a number leaves all records but the one that is live under it, and one
under which none is live changes nothing at all. All clones of a tracker are told the same and do
the same, and no request changes another tracker. -/
theorem trackers_refine_live (acts : List Desk.Act) (c i : Nat)
    (hc : (Desk.run acts).clones[c]? = some i) :
    let d := Desk.run acts
    let qs := Desk.asked .empty i acts
    let next := registered qs + 1
    (∀ r, d.answer c (.register r) = some (.number next) ∧ (∀ x ∈ live qs, x.1 < next) ∧
      (next < UInt64.size → next.toUInt64.toNat = next)) ∧
    d.answer c .count = some (.count (live qs).length) ∧
    (∃ rs, d.answer c .list = some (.list rs) ∧ rs ~ (live qs).map Prod.snd) ∧
    (∀ n, ∃ rs, (d.perform (.ask c (.unregister n))).answer c .list = some (.list rs) ∧
      rs ~ ((live qs).filter fun x => x.1 ≠ n).map Prod.snd) ∧
    (∀ n, n ∉ (live qs).map Prod.fst → d.perform (.ask c (.unregister n)) = d) ∧
    (∀ c' q, d.clones[c']? = some i →
      d.answer c' q = d.answer c q ∧ d.perform (.ask c' q) = d.perform (.ask c q)) ∧
    ∀ j q, j ≠ i → (d.perform (.ask c q)).trackers[j]? = d.trackers[j]? := by
  intro d qs next
  have ht : d.trackers[i]? = some (after qs) := Desk.tracker_of_clone hc
  obtain ⟨hlast, hrelays⟩ := after_keeps qs
  refine ⟨?_, ?_, ?_, ?_, ?_, ?_, ?_⟩
  · intro r
    refine ⟨?_, fun x hx => Nat.lt_succ_of_le (le_registered hx).2, ?_⟩
    · rw [Desk.answer_eq hc]
      show some (Answer.number ((after qs).last + 1)) = _
      rw [hlast]
    · intro hnext
      simpa using Nat.mod_eq_of_lt hnext
  · rw [Desk.answer_eq hc]
    show some (Answer.count (after qs).relays.length) = _
    rw [hrelays]
  · exact ⟨_, Desk.answer_list hc, .refl _⟩
  · intro n
    have hc' : (Desk.run (acts ++ [.ask c (.unregister n)])).clones[c]? = some i := by
      rw [Desk.run_concat]
      exact Desk.clones_perform hc _
    have hlist := Desk.answer_list hc'
    rw [Desk.asked_ask hc, if_pos rfl, live_unregister, Desk.run_concat] at hlist
    exact ⟨_, hlist, .refl _⟩
  · intro n hn
    refine Desk.perform_ask_same hc ht (unregister_of_not_mem ?_)
    rwa [hrelays]
  · intro c' q hc'
    rw [Desk.perform_ask hc, Desk.perform_ask hc']
    exact ⟨by rw [Desk.answer_eq hc, Desk.answer_eq hc'], rfl⟩
  · exact fun j q hj => Desk.trackers_ask_other hc q hj

/-- A relay to a local port. -/
def relayTo (port : UInt16) : Record :=
  ⟨⟨.v4 .loopback, 41000⟩, ⟨.v4 .loopback, port⟩, "localhost"⟩

/-- Two trackers, the first with two clones. A relay is struck out through the other clone, and
again when another one was entered. -/
def Desk.struckTwice : List Desk.Act := [
  .create, .clone 0, .create, .ask 0 (.register (relayTo 80)), .ask 2 (.register (relayTo 22)),
  .ask 1 (.unregister 1), .ask 0 (.register (relayTo 443)), .ask 1 (.unregister 1)]

/-- The relay that was entered later stays, and the next one gets the third number. -/
theorem trackers_refine_live_struckTwice :
    (Desk.run Desk.struckTwice).clones[1]? = some 0 ∧
      live (Desk.asked .empty 0 Desk.struckTwice) = [(2, relayTo 443)] ∧
      (Desk.run Desk.struckTwice).answer 1 .count = some (.count 1) ∧
      (Desk.run Desk.struckTwice).answer 1 (.register (relayTo 8080)) = some (.number 3) :=
  have h := trackers_refine_live Desk.struckTwice 1 0 rfl
  ⟨rfl, rfl, h.2.1, (h.1 (relayTo 8080)).1⟩

end Tether.Relay
