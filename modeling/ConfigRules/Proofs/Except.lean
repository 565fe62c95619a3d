import Mathlib.Data.List.Perm.Basic

/-!
Computations that can fail: what is known of their steps when they succeed.
-/

namespace ConfigRules

variable {ε α β : Type}

theorem bind_ok {x : Except ε α} {f : α → Except ε β} {b : β} :
    x >>= f = .ok b ↔ ∃ a, x = .ok a ∧ f a = .ok b := by
  cases x with
  | error e => exact ⟨fun h => (nomatch h), fun ⟨_, h, _⟩ => (nomatch h)⟩
  | ok a => exact ⟨fun h => ⟨a, rfl, h⟩, fun ⟨_, ha, h⟩ => Except.ok.inj ha ▸ h⟩

/-- A computation fails at its first step, or at the second one behind a first that succeeds. -/
theorem bind_error {x : Except ε α} {f : α → Except ε β} {e : ε} :
    x >>= f = .error e ↔ x = .error e ∨ ∃ a, x = .ok a ∧ f a = .error e := by
  cases x with
  | error e' =>
    have hbind : (Except.error e' : Except ε α) >>= f = .error e' := rfl
    simp [hbind]
  | ok a =>
    have hbind : (Except.ok a : Except ε α) >>= f = f a := rfl
    simp [hbind]

theorem pure_ok {a b : α} : (pure a : Except ε α) = .ok b ↔ a = b :=
  ⟨fun h => Except.ok.inj h, fun h => congrArg Except.ok h⟩

/-- A computation keeps its result when each of its steps does. -/
theorem bind_mono {x y : Except ε α} {f g : α → Except ε β} {b : β}
    (hx : ∀ a, x = .ok a → y = .ok a) (hf : ∀ a, f a = .ok b → g a = .ok b)
    (h : x >>= f = .ok b) : y >>= g = .ok b := by
  obtain ⟨a, ha, hb⟩ := bind_ok.mp h
  exact bind_ok.mpr ⟨a, hx a ha, hf a hb⟩

/-- Computations succeed alike when each of their steps does. -/
theorem bind_ok_congr {x y : Except ε α} {f g : α → Except ε β} {b : β}
    (hx : ∀ a, x = .ok a ↔ y = .ok a) (hf : ∀ a, f a = .ok b ↔ g a = .ok b) :
    x >>= f = .ok b ↔ y >>= g = .ok b := by
  simp only [bind_ok, hx, hf]

/-- A computation succeeds with a certain property when evaluating it shows both. -/
theorem exists_ok {x : Except ε α} {p : α → Prop} [DecidablePred p]
    (h : x.toOption.any (fun a => decide (p a)) = true) : ∃ a, x = .ok a ∧ p a := by
  cases x with
  | error e => cases h
  | ok a => exact ⟨a, rfl, of_decide_eq_true h⟩

/-- A computation fails when evaluating it gives nothing. -/
theorem exists_error {x : Except ε α} (h : x.toOption.isNone = true) : ∃ e, x = .error e := by
  cases x with
  | error e => exact ⟨e, rfl⟩
  | ok a => cases h

/-- What a computation fails with. -/
def failure? : Except ε α → Option ε
  | .error e => some e
  | .ok _ => none

theorem failure?_eq_some {x : Except ε α} {e : ε} : failure? x = some e ↔ x = .error e := by
  cases x <;> simp [failure?]

/-- A computation fails with a certain property when evaluating it shows both. -/
theorem exists_error_of {x : Except ε α} {p : ε → Prop} [DecidablePred p]
    (h : (failure? x).any (fun e => decide (p e)) = true) : ∃ e, x = .error e ∧ p e := by
  obtain ⟨e, he, hp⟩ := (Option.any_eq_true _ _).mp h
  exact ⟨e, failure?_eq_some.mp he, of_decide_eq_true hp⟩

/-- A list is gone through without a failure when every element is, and gives their results. -/
theorem mapM_ok {f : α → Except ε β} {xs : List α} {ys : List β} :
    xs.mapM f = .ok ys ↔ List.Forall₂ (fun x y => f x = .ok y) xs ys := by
  induction xs generalizing ys with
  | nil =>
    rw [List.mapM_nil, pure_ok, List.forall₂_nil_left_iff]
    exact eq_comm
  | cons x xs ih =>
    rw [List.mapM_cons, List.forall₂_cons_left_iff]
    simp only [bind_ok, pure_ok, ih]
    constructor
    · intro h
      obtain ⟨y, hy, zs, hzs, rfl⟩ := h
      exact ⟨y, zs, hy, hzs, rfl⟩
    · intro h
      obtain ⟨y, zs, hy, hzs, rfl⟩ := h
      exact ⟨y, hy, zs, hzs, rfl⟩

/-- Every result of a list comes from one of its elements. -/
theorem exists_of_forall₂ {r : α → β → Prop} {xs : List α} {ys : List β}
    (h : List.Forall₂ r xs ys) {y : β} (hy : y ∈ ys) : ∃ x ∈ xs, r x y := by
  induction h with
  | nil => cases hy
  | cons hxy _ ih =>
    rcases List.mem_cons.mp hy with rfl | hy
    · exact ⟨_, List.mem_cons_self, hxy⟩
    · obtain ⟨x, hx, hr⟩ := ih hy
      exact ⟨x, List.mem_cons_of_mem _ hx, hr⟩

theorem option_mapM_ok {f : α → Except ε β} {x : Option α} {y : Option β} (h : x.mapM f = .ok y) :
    (x = none ∧ y = none) ∨ ∃ a b, x = some a ∧ y = some b ∧ f a = .ok b := by
  cases x with
  | none => exact .inl ⟨rfl, (pure_ok.mp h).symm⟩
  | some a =>
    obtain ⟨b, hb, hy⟩ := bind_ok.mp h
    exact .inr ⟨a, b, rfl, (pure_ok.mp hy).symm, hb⟩

end ConfigRules
