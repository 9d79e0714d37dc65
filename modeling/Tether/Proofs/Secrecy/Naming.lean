import Mathlib
import Tether.Proofs.Keys.SingleUse
import Tether.Proofs.Lists
import Tether.Proofs.Secrecy.Supervisor

/-!
Keys that are named by their calls. From any script there is one with the same delays and failures
in which each call that brings a key brings the key with its own number (`Reply.named`). A run with
the named keys is a twin of all runs with alike keys, and since no two of the names are equal, the
ledger of the run says of each session in each of its twins which call its key came from:
`Named.valid`.
-/

namespace Tether.Control

open Tether.Agent Tether.Sim Tether.Text

/-- The answer, with the key named by its call if it brings one. -/
def Reply.named (r : Reply) : Reply :=
  match r.outcome with
  | .key text => if isBlank text then r else { r with outcome := .numbered }
  | .numbered => r
  | .fail _ => r

namespace Source

theorem reply_named (replies : List Reply) (call : Nat) :
    (ofScript (replies.map Reply.named)).reply call = ((ofScript replies).reply call).named :=
  List.getD_map replies ⟨0, .numbered⟩ Reply.named

theorem result_named (replies : List Reply) (call : Nat) :
    (∃ e, (ofScript replies).result call = .error e ∧
      (ofScript (replies.map Reply.named)).result call = .error e) ∨
    ∃ key name, (ofScript replies).result call = .ok key ∧
      (ofScript (replies.map Reply.named)).result call = .ok name ∧
        name.text = "key-" ++ toString call := by
  unfold result
  rw [reply_named]
  generalize (ofScript replies).reply call = r
  obtain ⟨delay, outcome⟩ := r
  cases outcome with
  | numbered => exact .inr ⟨_, _, rfl, rfl, rfl⟩
  | fail e => exact .inl ⟨e, rfl, rfl⟩
  | key text =>
    unfold Reply.named
    dsimp only
    by_cases hb : isBlank text = true
    · rw [if_pos hb]
      obtain ⟨e, he⟩ := Key.ofText_eq_error_iff.2 hb
      exact .inl ⟨e, he, he⟩
    · rw [if_neg hb]
      let key : Key := ⟨text, by simpa using hb⟩
      exact .inr ⟨key, _, Key.ofText_eq_ok_iff.2 rfl, rfl, rfl⟩

variable {P : String → String → Prop} {s s' : Source}

theorem Alike.refl (s : Source) : s.Alike (fun _ _ => True) s := by
  refine ⟨rfl, fun _ => rfl, fun call => ?_⟩
  cases s.result call with
  | ok key => exact .ok trivial
  | error e => exact .error e

theorem Alike.granted (h : s.Alike P s') (n : Nat) : s'.granted n = s.granted n := by
  have hok : ∀ call, (s'.result call).isOk = (s.result call).isOk := by
    intro call
    have hagree := h.result call
    generalize s.result call = r, s'.result call = r' at hagree ⊢
    cases hagree <;> rfl
  unfold Source.granted
  simp only [hok]

end Source

/-- A name stands for the key that the call brings which it is the name of. -/
def Named (keys : Source) (name text : String) : Prop :=
  ∃ call key, keys.result call = .ok key ∧ name = "key-" ++ toString call ∧ text = key.text

namespace Named

theorem alike {replies : List Reply} {keys : Source}
    (h : (Source.ofScript replies).Alike (fun _ _ => True) keys) :
    (Source.ofScript (replies.map Reply.named)).Alike (Named keys) keys where
  times := h.times
  delay call := by
    rw [h.delay, Source.reply_named]
    generalize (Source.ofScript replies).reply call = r
    obtain ⟨delay, outcome⟩ := r
    unfold Reply.named
    cases outcome with
    | numbered | fail _ => rfl
    | key text =>
      dsimp only
      split <;> rfl
  result call := by
    have hagree := h.result call
    generalize hr : keys.result call = r at hagree ⊢
    obtain ⟨e, hkey, hname⟩ | ⟨key, name, hkey, hname, htext⟩ := Source.result_named replies call
    · rw [hkey] at hagree
      rw [hname]
      cases hagree
      exact .error e
    · rw [hkey] at hagree
      rw [hname]
      cases hagree
      exact .ok ⟨call, _, hr, htext, rfl⟩

/-- The ledger of a run with the names accounts for the keys. -/
theorem valid {replies : List Reply} {keys : Source} {k : Ledger} {n n' : Network}
    (h : (Source.ofScript replies).Alike (fun _ _ => True) keys)
    (hv : k.Valid (.ofScript (replies.map Reply.named)) n) (hn : n.Twin (Named keys) n') :
    k.Valid keys n' := by
  refine ⟨?_, hv.spent, ?_⟩
  · rw [(alike h).granted]
    exact hv.granted
  · have hkeys : List.Forall₂ (fun o o' => Named keys o.authKey o'.authKey) n.options n'.options :=
      List.forall₂_map_left_iff.1 (List.forall₂_map_right_iff.1 hn.keys)
    refine forall₂_comp ?_ hv.opened hkeys
    intro call o o' hopens hnamed
    obtain ⟨name, hname, ho⟩ := hopens
    obtain ⟨call', key, hkey, ho', htext⟩ := hnamed
    -- a name has the number of one call only
    have hcall : call' = call := by
      obtain ⟨e, -, he⟩ | ⟨_, name', -, he, hname'⟩ := Source.result_named replies call
      · rw [he] at hname
        cases hname
      · rw [he] at hname
        cases hname
        rw [ho', hname', String.append_right_inj] at ho
        exact Nat.repr_injective ho
    subst hcall
    exact ⟨key, hkey, htext⟩

end Named

end Tether.Control
