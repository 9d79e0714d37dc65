import Mathlib.Data.List.Forall2

/-!
Steps that can fail, one behind the other. They succeed just when each of them does, and else the
error is that of the first that fails, whether there are two of them or one for each element of a
list.
-/

namespace Tether

variable {ε α β : Type}

theorem bind_eq_ok_iff {x : Except ε α} {k : α → Except ε β} {b : β} :
    x >>= k = .ok b ↔ ∃ a, x = .ok a ∧ k a = .ok b := by
  constructor
  · intro h
    cases x with
    | error e => cases h
    | ok a => exact ⟨a, rfl, h⟩
  · rintro ⟨a, rfl, h⟩
    exact h

theorem bind_eq_error_iff {x : Except ε α} {k : α → Except ε β} {e : ε} :
    x >>= k = .error e ↔ x = .error e ∨ ∃ a, x = .ok a ∧ k a = .error e := by
  constructor
  · intro h
    cases x with
    | error e' =>
      cases h
      exact .inl rfl
    | ok a => exact .inr ⟨a, rfl, h⟩
  · rintro (rfl | ⟨a, rfl, h⟩)
    · rfl
    · exact h

/-- What the second of two steps ensures, both of them ensure. -/
theorem of_bind_ok {P : β → Prop} {x : Except ε α} {k : α → Except ε β}
    (hk : ∀ a, x = .ok a → ∀ b, k a = .ok b → P b) (b : β) (h : x >>= k = .ok b) : P b := by
  obtain ⟨a, hx, hb⟩ := bind_eq_ok_iff.1 h
  exact hk a hx b hb

theorem exists_of_toOption {x : Except ε α} {f : α → β} {b : β}
    (h : x.toOption.map f = some b) : ∃ a, x = .ok a ∧ f a = b := by
  cases x with
  | error e => cases h
  | ok a => exact ⟨a, rfl, Option.some.inj h⟩

theorem map_eq_ok_iff {x : Except ε α} {g : α → β} {b : β} :
    x.map g = .ok b ↔ ∃ a, x = .ok a ∧ b = g a := by
  cases x <;> simp [Except.map, eq_comm]

theorem map_eq_error_iff {x : Except ε α} {g : α → β} {e : ε} :
    x.map g = .error e ↔ x = .error e := by
  cases x <;> simp [Except.map]

theorem ite_error_eq_ok_iff {c : Prop} [Decidable c] {e : ε} :
    (if c then .error e else .ok () : Except ε Unit) = .ok () ↔ ¬ c := by
  by_cases h : c <;> simp [h]

theorem ite_error_eq_error_iff {c : Prop} [Decidable c] {e e' : ε} :
    (if c then .error e else .ok () : Except ε Unit) = .error e' ↔ c ∧ e' = e := by
  by_cases h : c <;> simp [h, eq_comm]

theorem mapError_eq_ok_iff {ε' : Type} {x : Except ε α} {g : ε → ε'} {a : α} :
    x.mapError g = .ok a ↔ x = .ok a := by
  cases x <;> simp [Except.mapError]

theorem mapError_eq_error_iff {ε' : Type} {x : Except ε α} {g : ε → ε'} {e : ε'} :
    x.mapError g = .error e ↔ ∃ fault, x = .error fault ∧ e = g fault := by
  cases x <;> simp [Except.mapError, eq_comm]

section Traversal

variable {f : α → Except ε β} {as : List α}

theorem mapM_eq_ok_iff {bs : List β} :
    as.mapM f = .ok bs ↔ List.Forall₂ (fun a b => f a = .ok b) as bs := by
  induction as generalizing bs with
  | nil =>
    constructor
    · intro h
      cases h
      exact .nil
    · intro h
      cases h
      rfl
  | cons a as ih =>
    rw [List.mapM_cons, bind_eq_ok_iff]
    constructor
    · rintro ⟨b, hb, h⟩
      obtain ⟨rest, hrest, h⟩ := bind_eq_ok_iff.1 h
      cases h
      exact .cons hb (ih.1 hrest)
    · intro h
      cases h with
      | cons hb hrest => exact ⟨_, hb, bind_eq_ok_iff.2 ⟨_, ih.2 hrest, rfl⟩⟩

theorem exists_mapM_eq_ok_iff : (∃ bs, as.mapM f = .ok bs) ↔ ∀ a ∈ as, ∃ b, f a = .ok b := by
  induction as with
  | nil => exact iff_of_true ⟨[], rfl⟩ nofun
  | cons a as ih =>
    rw [List.forall_mem_cons, ← ih]
    constructor
    · rintro ⟨bs, h⟩
      cases mapM_eq_ok_iff.1 h with
      | cons hb hrest => exact ⟨⟨_, hb⟩, _, mapM_eq_ok_iff.2 hrest⟩
    · rintro ⟨⟨b, hb⟩, bs, hbs⟩
      exact ⟨b :: bs, mapM_eq_ok_iff.2 (.cons hb (mapM_eq_ok_iff.1 hbs))⟩

/-- The error is that of the first step that fails. -/
theorem mapM_eq_error_iff {e : ε} :
    as.mapM f = .error e ↔ ∃ front a back, as = front ++ a :: back ∧
      (∀ a' ∈ front, ∃ b, f a' = .ok b) ∧ f a = .error e := by
  induction as with
  | nil =>
    constructor
    · intro h
      cases h
    · rintro ⟨front, a, back, h, -⟩
      cases front <;> cases h
  | cons x as ih =>
    rw [List.mapM_cons, bind_eq_error_iff]
    constructor
    · rintro (h | ⟨b, hb, h⟩)
      · exact ⟨[], x, as, rfl, nofun, h⟩
      · obtain h | ⟨bs, -, h⟩ := bind_eq_error_iff.1 h
        · obtain ⟨front, a, back, rfl, hfront, ha⟩ := ih.1 h
          exact ⟨x :: front, a, back, rfl, List.forall_mem_cons.2 ⟨⟨b, hb⟩, hfront⟩, ha⟩
        · cases h
    · rintro ⟨front, a, back, h, hfront, ha⟩
      cases front with
      | nil =>
        cases h
        exact .inl ha
      | cons y front =>
        cases h
        obtain ⟨⟨b, hb⟩, hfront⟩ := List.forall_mem_cons.1 hfront
        exact .inr ⟨b, hb, bind_eq_error_iff.2 (.inl (ih.2 ⟨front, a, back, rfl, hfront, ha⟩))⟩

/-- A step that fails as a check does stands for that check. -/
theorem bind_eq_mapM {γ : Type} {check : α → Except ε Unit} {x : Except ε β}
    {k : β → Except ε γ} {y : Except ε γ} {a : α} (ha : check a = x.map fun _ => ())
    (h : ∀ b, x = .ok b → k b = as.mapM check >>= fun _ => y) :
    x >>= k = (a :: as).mapM check >>= fun _ => y := by
  rw [List.mapM_cons, ha]
  cases x with
  | error e => rfl
  | ok b =>
    refine (h b rfl).trans ?_
    cases as.mapM check <;> rfl

theorem ite_eq_mapM {γ : Type} {check : α → Except ε Unit} {c : Prop} [Decidable c] {e : ε}
    {k : PUnit → Except ε γ} {x y : Except ε γ} {a : α}
    (ha : check a = if c then .error e else .ok ())
    (h : ¬ c → x = as.mapM check >>= fun _ => y) :
    (if c then throw e >>= k else x) = (a :: as).mapM check >>= fun _ => y := by
  rw [List.mapM_cons, ha]
  by_cases hc : c
  · rw [if_pos hc, if_pos hc]
    rfl
  · rw [if_neg hc, if_neg hc]
    refine (h hc).trans ?_
    cases as.mapM check <;> rfl

end Traversal

end Tether
