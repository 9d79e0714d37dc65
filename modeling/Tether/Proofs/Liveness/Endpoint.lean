import Tether.Proofs.Liveness.Bench

/-!
A liveness endpoint through all that can be done on a bench. Whatever is done that leaves its
listener to it, the endpoint comes to rest again, with what was dialed to the listener due besides
what was due before (`Rests.does`); by induction so it stands behind any row of actions
(`Rests.play`). With the loop on a listener of any kind this makes up `endpoint_endures`.
-/

namespace Tether.Sim

open Tether.Agent Tether.Control Tether.Net Tether.Overlay

/-! ## Building on a network -/

namespace Network

variable {n : Network} {l : Nat}

theorem listen_number (n : Network) (id : Nat) (port : UInt16) (listener : Nat)
    (h : (n.listen id port).2 = .ok listener) : listener = n.listeners.length := by
  unfold listen at h
  split at h
  · cases h
  · split at h
    · cases h
    · exact (Except.ok.inj h).symm

/-- What a build does to a listener: it brings nothing, cuts it off only by a failure behind the
start, and puts its own endpoint on another one. -/
structure Skirts (l : Nat) (n : Network) (r : Network × Built) : Prop where
  onward : Onward l [] n r.1
  fed : ∀ cause, r.2 = .notStarted cause → r.1.isFed l = n.isFed l
  other : ∀ id listener, r.2 = .ready id listener → listener ≠ l

theorem skirts_build (settings : Settings) (key : Key) (hl : l < n.listeners.length) :
    Skirts l n (Agent.build n settings key) := by
  have hfed := n.isFed_start (settings.options key) l
  have hstart : Onward l [] n (n.start (settings.options key)).1 :=
    .idle (n.idle_start _) fun hf => hfed ▸ hf
  unfold Agent.build
  generalize n.start (settings.options key) = started at hfed hstart
  obtain ⟨n₁, cause | id⟩ := started
  · exact ⟨hstart, fun _ _ => hfed, nofun⟩
  · dsimp only
    have hregister : Onward l [] n (n₁.setFallback id .relay) :=
      hstart.trans (.idle (n₁.idle_modifySession id _) fun hf => n₁.isFed_setFallback id _ l ▸ hf)
    generalize n₁.setFallback id .relay = n₂ at hregister
    have hlt : l < n₂.listeners.length := Nat.lt_of_lt_of_le hl hregister.length
    have hlisten : Onward l [] n (n₂.listen id settings.livenessPort).1 :=
      hregister.trans (.listen n₂ id settings.livenessPort hlt)
    have hnumber := n₂.listen_number id settings.livenessPort
    generalize n₂.listen id settings.livenessPort = listening at hlisten hnumber
    obtain ⟨n₃, cause | listener⟩ := listening
    · exact ⟨hlisten.trans (.close n₃ id l), nofun, nofun⟩
    · refine ⟨hlisten, nofun, ?_⟩
      intro id' listener' h
      obtain ⟨-, rfl⟩ := Built.ready.inj h
      rw [hnumber _ rfl]
      exact Nat.ne_of_gt hlt

end Network

/-! ## Actions -/

/-- The action leaves a listener to the endpoint that is on it. -/
def Action.spares (l : Nat) : Action → Bool
  | .accept i | .release i | .serve i _ => i != l
  | _ => true

namespace Bench

variable {b b' : Bench} {i l opening : Nat} {due : List (Nat × Connection)} {s : Server}

/-- Another endpoint begins, on another listener. -/
theorem Serves.concat (h : Serves b i l opening due s) {t : Server} (ht : t.listener ≠ l)
    (log : List Entry) :
    Serves { b with servers := b.servers ++ [t], log := log } i l opening due s := by
  refine ⟨?_, h.listener, ?_, h.holds, h.past, h.stage⟩
  · rw [List.getElem?_append_left (List.getElem?_eq_some_iff.1 h.server).1]
    exact h.server
  · intro j t' hj hl
    rw [List.getElem?_append] at hj
    split at hj
    · exact h.alone j t' hj hl
    · have hmem := List.mem_of_getElem? hj
      rw [List.mem_singleton] at hmem
      exact absurd (hmem ▸ hl) ht

theorem Orderly.serve (h : b.Orderly) (listener failures : Nat) (ofBuild : Bool) :
    (b.serve listener failures ofBuild).Orderly := by
  unfold Bench.serve
  refine (settles_settle _).orderly ⟨?_, ?_⟩
  · intro s hs t ht
    obtain hs | hs := List.mem_append.1 hs
    · exact h.punctual s hs t ht
    · rw [List.mem_singleton.1 hs] at ht
      cases ht
  · intro x hx
    obtain ⟨s, hs, hl⟩ := h.attended x hx
    exact ⟨s, List.mem_append_left _ hs, hl⟩

theorem Rests.serve (h : Rests b i l opening due s) (hb : b.Around b')
    (ho : Network.Onward l [] b.net b'.net) {listener : Nat} (hl : listener ≠ l) (failures : Nat)
    (ofBuild : Bool) : ∃ s', Rests (b'.serve listener failures ofBuild) i l opening due s' := by
  have hs := h.onward hb ho
  rw [List.map_nil, List.append_nil] at hs
  exact (hs.concat (t := ⟨listener, failures, .accepting, ofBuild⟩) hl _).settle

/-- The connection that an action brings to a listener. -/
def brings (b : Bench) (l : Nat) : Action → List Connection
  | .dial session src dst => (b.net.dial session src dst).2.brings l
  | _ => []

/-- The connections that a row of actions brings to a listener, each with the time. -/
def dialedTo (l : Nat) (b : Bench) : List Action → List (Nat × Connection)
  | [] => []
  | a :: actions => (b.brings l a).map (b.now, ·) ++ dialedTo l (b.does a).1 actions

/-- The bench stays in order, and an endpoint that was at rest on a listener is at rest, with some
more connections due. -/
structure Keeps (l : Nat) (new : List Connection) (b b' : Bench) : Prop where
  orderly : b.Orderly → b'.Orderly
  rests : ∀ i opening due s, b.Orderly → Rests b i l opening due s →
    ∃ s', Rests b' i l opening (due ++ new.map (b.now, ·)) s'

namespace Keeps

variable {new : List Connection}

/-- What brings nothing. -/
theorem quiet (horderly : b.Orderly → b'.Orderly)
    (hrests : ∀ i opening due s, b.Orderly → Rests b i l opening due s →
      ∃ s', Rests b' i l opening due s') : Keeps l [] b b' := by
  refine ⟨horderly, ?_⟩
  intro i opening due s ho h
  rw [List.map_nil, List.append_nil]
  exact hrests i opening due s ho h

theorem refl (b : Bench) : Keeps l [] b b := quiet id fun _ _ _ s _ h => ⟨s, h⟩

theorem still (hb : b.Around b') (ho : Network.Onward l [] b.net b'.net)
    (hf : b'.net.isFed l = b.net.isFed l) : Keeps l [] b b' :=
  quiet hb.settles.orderly fun _ _ _ s _ h => ⟨s, h.still hb ho hf⟩

/-- What leaves the sessions alone does not cut a listener off. -/
theorem same (hb : b.Around b') (ho : Network.Onward l [] b.net b'.net)
    (hs : b'.net.sessions = b.net.sessions) : Keeps l [] b b' := by
  apply still hb ho
  unfold Network.isFed
  rw [hs]

theorem trans {b'' : Bench} (h : Keeps l [] b b') (h' : Keeps l [] b' b'') : Keeps l [] b b'' := by
  refine quiet (h'.orderly ∘ h.orderly) ?_
  intro i opening due s ho hr
  obtain ⟨s₁, h₁⟩ := h.rests i opening due s ho hr
  obtain ⟨s₂, h₂⟩ := h'.rests i opening _ s₁ (h.orderly ho) h₁
  rw [List.map_nil, List.append_nil, List.map_nil, List.append_nil] at h₂
  exact ⟨s₂, h₂⟩

theorem settle (hb : b.Around b')
    (ho : l < b.net.listeners.length → Network.Onward l new b.net b'.net) :
    Keeps l new b b'.settle where
  orderly h := b'.settles_settle.orderly (hb.settles.orderly h)
  rests _ _ _ _ _ h := (h.onward hb (ho (Network.lt_of_holds h.holds))).settle

theorem settle_beside (hb : b.Beside b') : Keeps l [] b b'.settle := by
  apply settle hb.around
  intro _
  rw [hb.net]
  exact .same (.refl b.net) rfl

theorem advance (b : Bench) (time : Nat) : Keeps l [] b (b.advance time) :=
  quiet (fun ho => (moves_advance ho time).orderly) fun i opening due s ho h =>
    (moves_advance ho time).rests i l opening due s h

theorem release (b : Bench) {j : Nat} (hj : j ≠ l) : Keeps l [] b (b.release j) := by
  unfold Bench.release
  have hnet : Keeps l [] b { b with net := (b.net.release j).1 } :=
    same ⟨rfl, rfl, rfl⟩ (.modifyListener hj b.net _) rfl
  refine hnet.trans ?_
  refine List.foldlRecOn _ _ (refl _) fun b₁ h₁ c _ => h₁.trans ?_
  exact settle_beside ⟨rfl, rfl, rfl, rfl⟩

theorem dial (b : Bench) (session : Nat) (src dst : Endpoint) :
    Keeps l ((b.net.dial session src dst).2.brings l) b (b.dial session src dst).1 := by
  have ho := Network.Onward.dial b.net session src dst l
  have hs := b.net.sessions_dial session src dst
  unfold Bench.dial
  dsimp only
  generalize b.net.dial session src dst = dialed at ho hs
  obtain ⟨net, r⟩ := dialed
  cases r with
  | refused => exact same ⟨rfl, rfl, rfl⟩ ho hs
  | queued c i => exact settle ⟨rfl, rfl, rfl⟩ fun _ => ho
  | asked c routing =>
    cases routing with
    | pass => exact same ⟨rfl, rfl, rfl⟩ ho hs
    | intercept f => exact settle ⟨rfl, rfl, rfl⟩ fun _ => ho

theorem build (b : Bench) (deadline : Nat) : Keeps l [] b (b.build deadline).1 := by
  unfold Bench.build
  dsimp only
  generalize b.source.obtain b.retry b.now (b.now + deadline) = run
  obtain ⟨source, progress, now, log⟩ := run
  have hsource : Keeps l [] b { b with source := source, log := b.log ++ log } :=
    same ⟨rfl, rfl, rfl⟩ (.same (.refl b.net) rfl) rfl
  have hwaited := hsource.trans (advance _ (now - b.now))
  dsimp only
  generalize Bench.advance { b with source := source, log := b.log ++ log } (now - b.now) = waited
    at hwaited ⊢
  cases progress with
  | pursuing p => exact hwaited
  | got key =>
    refine hwaited.trans ?_
    have hskirts := Network.skirts_build (n := waited.net) (l := l) waited.settings key
    dsimp only
    generalize Agent.build waited.net waited.settings key = built at hskirts ⊢
    obtain ⟨net, cause | ⟨id, cause⟩ | ⟨id, listener⟩⟩ := built
    · have hb : waited.Around { waited with net := net } := ⟨rfl, rfl, rfl⟩
      refine quiet hb.settles.orderly ?_
      intro i opening due s _ h
      have hnet := hskirts (Network.lt_of_holds h.holds)
      exact ⟨s, h.still hb hnet.onward (hnet.fed cause rfl)⟩
    · exact settle ⟨rfl, rfl, rfl⟩ fun hl => (hskirts hl).onward
    · have hb : waited.Around
          { waited with net := net, log := waited.log ++ [establishedEntry waited.settings] } :=
        ⟨rfl, rfl, rfl⟩
      refine quiet (fun h => (hb.settles.orderly h).serve listener 0 true) ?_
      intro i opening due s _ h
      have hnet := hskirts (Network.lt_of_holds h.holds)
      exact h.serve hb hnet.onward (hnet.other id listener rfl) 0 true

end Keeps

theorem keeps_does (b : Bench) {a : Action} (ha : a.spares l = true) :
    Keeps l (b.brings l a) b (b.does a).1 := by
  cases a with
  | scriptHealth _ | failNextStarts _ | failListen _ =>
    exact .same ⟨rfl, rfl, rfl⟩ (.same ⟨rfl, Nat.le_refl _⟩ rfl) rfl
  | start options =>
    have hfed := b.net.isFed_start options l
    exact .still ⟨rfl, rfl, rfl⟩ (.idle (b.net.idle_start options) fun hf => hfed ▸ hf) hfed
  | build deadline => exact .build b deadline
  | listen session port =>
    exact .settle ⟨rfl, rfl, rfl⟩ fun hl => .listen b.net session port hl
  | accept i =>
    have hfed := Network.isFed_of_calm (b.net.calm_accept i) l
    exact .still ⟨rfl, rfl, rfl⟩ (.accept (by simpa [Action.spares] using ha) b.net) hfed
  | release i => exact .release b (by simpa [Action.spares] using ha)
  | serve i failures =>
    have hi : i ≠ l := by simpa [Action.spares] using ha
    refine .quiet (fun h => h.serve i failures false) ?_
    intro _ _ _ _ _ h
    exact h.serve ⟨rfl, rfl, rfl⟩ (.same (.refl b.net) rfl) hi failures false
  | dial session src dst => exact .dial b session src dst
  | register session fallback =>
    have hfed := b.net.isFed_setFallback session fallback l
    have hidle := b.net.idle_modifySession session ({ · with fallback := some fallback })
    exact .still ⟨rfl, rfl, rfl⟩ (.idle hidle fun hf => hfed ▸ hf) hfed
  | write stream side bytes =>
    show Keeps l [] b (b.write stream side bytes).1
    unfold Bench.write
    split
    · exact .refl b
    · exact .settle_beside ⟨rfl, rfl, rfl, rfl⟩
  | read stream side limit =>
    show Keeps l [] b (b.read stream side limit).1
    unfold Bench.read
    split
    · exact .refl b
    · exact .settle_beside ⟨rfl, rfl, rfl, rfl⟩
  | shutdown stream side =>
    show Keeps l [] b (b.shutdown stream side)
    unfold Bench.shutdown
    split
    · exact .refl b
    · exact .settle_beside ⟨rfl, rfl, rfl, rfl⟩
  | dropEnd stream side => exact .settle_beside ⟨rfl, rfl, rfl, rfl⟩
  | localClient =>
    exact .same ⟨rfl, rfl, rfl⟩ (.same b.net.idle_localClient b.net.sessions_localClient)
      b.net.sessions_localClient
  | status session =>
    exact .same ⟨rfl, rfl, rfl⟩ (.same (b.net.idle_status session) (b.net.sessions_status session))
      (b.net.sessions_status session)
  | close session => exact .settle ⟨rfl, rfl, rfl⟩ fun _ => .close b.net session l
  | advance time => exact .advance b time

/-- Whatever is done, the bench stays in order. -/
theorem Orderly.does (h : b.Orderly) (a : Action) : (b.does a).1.Orderly := by
  -- some listener is spared
  have hspares : ∃ l, a.spares l = true := by
    cases a with
    | accept i | release i | serve i _ =>
      refine ⟨i + 1, ?_⟩
      simp [Action.spares]
    | _ => exact ⟨0, rfl⟩
  obtain ⟨l, hl⟩ := hspares
  exact (keeps_does b hl).orderly h

theorem Orderly.play (h : b.Orderly) (actions : List Action) : (b.play actions).1.Orderly := by
  induction actions generalizing b with
  | nil => exact h
  | cons a actions ih => exact ih (h.does a)

/-- An endpoint at rest stays on its listener through any actions that leave it to it, and all that
they dialed to it becomes due. -/
theorem Rests.play (h : Rests b i l opening due s) (ho : b.Orderly) (actions : List Action)
    (hs : ∀ a ∈ actions, a.spares l = true) :
    ∃ s', Rests (b.play actions).1 i l opening (due ++ dialedTo l b actions) s' := by
  induction actions generalizing b due s with
  | nil =>
    refine ⟨s, ?_⟩
    rw [dialedTo, List.append_nil]
    exact h
  | cons a actions ih =>
    rw [List.forall_mem_cons] at hs
    obtain ⟨s₁, h₁⟩ := (keeps_does b hs.1).rests i opening due s ho h
    obtain ⟨s₂, h₂⟩ := ih h₁ (ho.does a) hs.2
    refine ⟨s₂, ?_⟩
    rw [dialedTo, ← List.append_assoc]
    exact h₂

/-! ## From the beginning -/

/-- An endpoint begins on a listener that no other one had. -/
theorem Orderly.begin (ho : b.Orderly) (hl : b.net.holds l = true)
    (hfree : ∀ s ∈ b.servers, s.listener ≠ l) (failures : Nat) :
    ∃ s, Rests (b.serve l failures false) b.servers.length l (b.now + failures * acceptPause)
      ((b.net.waitingAt l).map (b.now, ·)) s := by
  have hdue : ((b.net.waitingAt l).map (b.now, ·)).map Prod.snd = b.net.waitingAt l := by
    rw [List.map_map]
    exact List.map_id _
  have hpast : ∀ x ∈ (b.net.waitingAt l).map (b.now, ·), x.1 = b.now := by
    intro x hx
    obtain ⟨c, -, rfl⟩ := List.mem_map.1 hx
    rfl
  have hhanded : b.handedFrom l = [] := by
    unfold handedFrom
    rw [List.filterMap_eq_nil_iff]
    intro x hx
    obtain ⟨s, hs, he⟩ := ho.attended x hx
    rw [if_neg (he ▸ hfree s hs)]
  unfold Bench.serve
  apply Serves.settle (s := ⟨l, failures, .accepting, false⟩)
  refine ⟨List.getElem?_concat_length, rfl, ?_, hl, fun x hx => Nat.le_of_eq (hpast x hx), ?_⟩
  · intro j t hj ht
    rw [List.getElem?_append] at hj
    split at hj
    · exact absurd ht (hfree t (List.mem_of_getElem? hj))
    · have hlt := (List.getElem?_eq_some_iff.1 hj).1
      rw [List.length_singleton] at hlt
      omega
  · obtain rfl | hf := Nat.eq_zero_or_pos failures
    · rw [Nat.zero_mul, Nat.add_zero]
      refine .accepts [] _ (Nat.le_refl _) rfl ?_ hdue.symm hhanded
      intro x hx
      rw [hpast x hx]
      exact Nat.max_self _
    · exact .fails rfl hf hdue.symm hhanded

end Bench

end Tether.Sim
