import Mathlib.Data.List.Forall2

/-!
Checks that may fail. A sequence of checks has an outcome just if each of them has one, and then it
is put together from theirs.
-/

namespace Crosstab

variable {ε α β γ : Type}

/-- Two checks in sequence have an outcome just if both do. -/
theorem bind_eq_ok {x : Except ε α} {f : α → Except ε β} {b : β} :
    (x >>= f) = .ok b ↔ ∃ a, x = .ok a ∧ f a = .ok b := by
  cases x <;> simp [bind, Except.bind]

theorem map_eq_ok {x : Except ε α} {f : α → β} {b : β} :
    x.map f = .ok b ↔ ∃ a, x = .ok a ∧ f a = b := by
  cases x <;> simp [Except.map]

/-- What goes on behind a guard is reached just if the guard does not hold. -/
theorem guard_eq_ok {p : Prop} [Decidable p] {e : ε} {f : α → Except ε β} {x : Except ε β} {b : β} :
    (if p then .error e >>= f else x) = .ok b ↔ ¬p ∧ x = .ok b := by
  by_cases hGuard : p <;> simp [hGuard, bind, Except.bind]

/-- A sequence fails at its first check that does. -/
theorem bind_eq_error {x : Except ε α} {f : α → Except ε β} {e : ε} :
    (x >>= f) = .error e ↔ x = .error e ∨ ∃ a, x = .ok a ∧ f a = .error e := by
  cases x <;> simp [bind, Except.bind]

theorem map_eq_error {x : Except ε α} {f : α → β} {e : ε} :
    x.map f = .error e ↔ x = .error e := by
  cases x <;> simp [Except.map]

theorem mapError_eq_ok {δ : Type} {x : Except ε α} {f : ε → δ} {a : α} :
    x.mapError f = .ok a ↔ x = .ok a := by
  cases x <;> simp [Except.mapError]

/-- A fault that is reported in other words has a cause. -/
theorem mapError_eq_error {δ : Type} {x : Except ε α} {f : ε → δ} {e : δ} :
    x.mapError f = .error e ↔ ∃ cause, x = .error cause ∧ f cause = e := by
  cases x <;> simp [Except.mapError]

/-- What goes on behind a guard fails by the guard, or later on. -/
theorem guard_eq_error {p : Prop} [Decidable p] {e e' : ε} {f : α → Except ε β} {x : Except ε β} :
    (if p then .error e >>= f else x) = .error e' ↔ (p ∧ e = e') ∨ (¬p ∧ x = .error e') := by
  by_cases hGuard : p <;> simp [hGuard, bind, Except.bind]

/-- A list has an outcome just if each of its members has one. -/
theorem mapM_eq_ok {f : α → Except ε β} {xs : List α} {ys : List β} :
    xs.mapM f = .ok ys ↔ List.Forall₂ (fun x y => f x = .ok y) xs ys := by
  induction xs generalizing ys with
  | nil => cases ys <;> simp [pure, Except.pure]
  | cons x xs ih =>
      simp only [List.mapM_cons, bind_eq_ok, ih, List.forall₂_cons_left_iff]
      constructor
      · rintro ⟨y, hFirst, rest, hRest, hEq⟩
        exact ⟨y, rest, hFirst, hRest, (Except.ok.inj hEq).symm⟩
      · rintro ⟨y, rest, hFirst, hRest, rfl⟩
        exact ⟨y, hFirst, rest, hRest, rfl⟩

/-- A list that fails has a member that does. -/
theorem exists_of_mapM_eq_error {f : α → Except ε β} {xs : List α} {e : ε}
    (h : xs.mapM f = .error e) : ∃ x ∈ xs, f x = .error e := by
  induction xs with
  | nil => cases h
  | cons x xs ih =>
      simp only [List.mapM_cons, bind_eq_error] at h
      rcases h with hFirst | ⟨y, -, hRest | ⟨ys, -, hNever⟩⟩
      · exact ⟨x, List.mem_cons_self, hFirst⟩
      · obtain ⟨x, hMem, hFails⟩ := ih hRest
        exact ⟨x, List.mem_cons_of_mem _ hMem, hFails⟩
      · cases hNever

/-- The same for members that may be missing. -/
theorem mapM_eq_some {α β : Type} {f : α → Option β} {xs : List α} {ys : List β} :
    xs.mapM f = some ys ↔ List.Forall₂ (fun x y => f x = some y) xs ys := by
  induction xs generalizing ys with
  | nil => cases ys <;> simp
  | cons x xs ih =>
      simp only [List.mapM_cons, Option.bind_eq_bind, Option.bind_eq_some_iff, ih,
        List.forall₂_cons_left_iff]
      constructor
      · rintro ⟨y, hFirst, rest, hRest, hEq⟩
        exact ⟨y, rest, hFirst, hRest, (Option.some.inj hEq).symm⟩
      · rintro ⟨y, rest, hFirst, hRest, rfl⟩
        exact ⟨y, hFirst, rest, hRest, rfl⟩

/-- A check has no more than one outcome. -/
theorem rightUnique_ok (f : α → Except ε β) : Relator.RightUnique fun x y => f x = .ok y :=
  fun _ _ _ hLeft hRight => Except.ok.inj (hLeft.symm.trans hRight)

/-- Whatever stands in the one list is related to something in the other. -/
theorem exists_of_forall₂_right {r : α → β → Prop} {xs : List α} {ys : List β}
    (h : List.Forall₂ r xs ys) {y : β} (hMem : y ∈ ys) : ∃ x ∈ xs, r x y := by
  induction h with
  | nil => simp at hMem
  | @cons x first xs ys hFirst _ ih =>
      rcases List.mem_cons.mp hMem with rfl | hRest
      · exact ⟨x, List.mem_cons_self, hFirst⟩
      · obtain ⟨x, hRest, hRelated⟩ := ih hRest
        exact ⟨x, List.mem_cons_of_mem _ hRest, hRelated⟩

/-- Images are related if what they are images of is. -/
theorem forall₂_map {δ : Type} {r : γ → δ → Prop} {f : α → γ} {g : β → δ} {xs : List α}
    {ys : List β} (h : List.Forall₂ (fun x y => r (f x) (g y)) xs ys) :
    List.Forall₂ r (xs.map f) (ys.map g) :=
  List.forall₂_map_left_iff.mpr (List.forall₂_map_right_iff.mpr h)

/-- What related members have in common, the lists have in common. -/
theorem map_eq_of_forall₂ {r : α → β → Prop} {xs : List α} {ys : List β} {f : α → γ} {g : β → γ}
    (h : List.Forall₂ r xs ys) (hEq : ∀ x y, r x y → g y = f x) : ys.map g = xs.map f := by
  induction h with
  | nil => rfl
  | cons hFirst _ ih => rw [List.map_cons, List.map_cons, hEq _ _ hFirst, ih]

/-- What is found first in related lists has in common what related members have. -/
theorem map_find?_of_forall₂ {r : α → β → Prop} {xs : List α} {ys : List β} {p : α → Bool}
    {q : β → Bool} {f : α → γ} {g : β → γ} (h : List.Forall₂ r xs ys)
    (hTest : ∀ x y, r x y → q y = p x) (hEq : ∀ x y, r x y → g y = f x) :
    (ys.find? q).map g = (xs.find? p).map f := by
  induction h with
  | nil => rfl
  | @cons x y _ _ hFirst _ ih =>
      rw [List.find?_cons, List.find?_cons, hTest x y hFirst]
      cases p x
      · exact ih
      · rw [Option.map_some, Option.map_some, hEq x y hFirst]

end Crosstab
