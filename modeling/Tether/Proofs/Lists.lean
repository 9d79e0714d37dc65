import Mathlib.Data.List.Forall2
import Mathlib.Data.List.Nodup

/-!
One place of a list: what stands before it and behind it stays when it is changed, and a list is
gone through place by place.
-/

namespace Tether

variable {α β : Type}

theorem exists_split {l : List α} {i : Nat} {a : α} (h : l[i]? = some a) :
    ∃ front back, l = front ++ a :: back ∧ front.length = i ∧
      ∀ f, l.modify i f = front ++ f a :: back := by
  obtain ⟨hi, ha⟩ := List.getElem?_eq_some_iff.1 h
  have hm (f : α → α) : l.modify i f = l.take i ++ f a :: l.drop (i + 1) := by
    rw [List.modify_eq_take_cons_drop hi, ha]
  refine ⟨l.take i, l.drop (i + 1), ?_, List.length_take_of_le (Nat.le_of_lt hi), hm⟩
  have hid := hm id
  rwa [List.modify_id] at hid

theorem map_modify {f : α → α} {f' : β → β} {g : α → β} (h : ∀ a, g (f a) = f' (g a)) (l : List α)
    (i : Nat) : (l.modify i f).map g = (l.map g).modify i f' := by
  refine List.ext_getElem? fun j => ?_
  rw [List.getElem?_map, List.getElem?_modify, List.getElem?_modify, List.getElem?_map]
  by_cases hj : i = j
  · cases l[j]? <;> simp [hj, h]
  · cases l[j]? <;> simp [hj]

theorem map_modify_same {f : α → α} {g : α → β} (h : ∀ a, g (f a) = g a) (l : List α) (i : Nat) :
    (l.modify i f).map g = l.map g :=
  (map_modify (show ∀ a, g (f a) = id (g a) from h) l i).trans (List.modify_id _ _)

theorem filterMap_eq_range (l : List α) (f : α → Option β) :
    l.filterMap f = (List.range l.length).filterMap fun i => l[i]?.bind f := by
  have hrange : l.map some = (List.range l.length).map (l[·]?) := by
    refine List.ext_getElem? fun j => ?_
    by_cases hj : j < l.length
    · simp [hj]
    · simp [hj]
  calc l.filterMap f
    _ = (l.map some).filterMap (Option.bind · f) := by rw [List.filterMap_map]; rfl
    _ = _ := by rw [hrange, List.filterMap_map]; rfl

theorem forall₂_comp {γ : Type} {R : α → β → Prop} {S : β → γ → Prop} {T : α → γ → Prop}
    (h : ∀ a b c, R a b → S b c → T a c) {as : List α} {bs : List β} {cs : List γ}
    (hr : List.Forall₂ R as bs) (hs : List.Forall₂ S bs cs) : List.Forall₂ T as cs := by
  induction hr generalizing cs with
  | nil =>
    cases hs
    exact .nil
  | cons hab _ ih =>
    cases hs with
    | cons hbc hs => exact .cons (h _ _ _ hab hbc) (ih hs)

/-- Numbers below a bound and numbers from there on. -/
theorem nodup_append_of_lt {xs ys : List Nat} {n : Nat} (hx : xs.Nodup) (hy : ys.Nodup)
    (hlt : ∀ x ∈ xs, x < n) (hle : ∀ y ∈ ys, n ≤ y) : (xs ++ ys).Nodup := by
  refine List.nodup_append.2 ⟨hx, hy, fun x hxs y hys => ?_⟩
  exact Nat.ne_of_lt (Nat.lt_of_lt_of_le (hlt x hxs) (hle y hys))

end Tether
