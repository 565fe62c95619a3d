/-!
Lists of values by key, in the order in which the keys came. Looking a key up takes its first value,
and giving a key a value keeps its place.
-/

namespace ConfigRules

abbrev Keyed (κ α : Type) := List (κ × α)

namespace Keyed

variable {κ α : Type} [DecidableEq κ]

/-- The value of a key. -/
def get? (key : κ) : Keyed κ α → Option α
  | [] => none
  | (k, v) :: rest => if k = key then some v else get? key rest

/-- Gives a key a value, in its place if it has one and else at the end. -/
def put (key : κ) (value : α) : Keyed κ α → Keyed κ α
  | [] => [(key, value)]
  | (k, v) :: rest => if k = key then (k, value) :: rest else (k, v) :: put key value rest

theorem get?_put_self (key : κ) (value : α) (es : Keyed κ α) :
    get? key (put key value es) = some value := by
  induction es with
  | nil => simp [put, get?]
  | cons e es ih =>
    obtain ⟨k, v⟩ := e
    by_cases h : k = key <;> simp [put, get?, h, ih]

theorem get?_put_other {key other : κ} (h : other ≠ key) (value : α) (es : Keyed κ α) :
    get? other (put key value es) = get? other es := by
  induction es with
  | nil => simp [put, get?, h.symm]
  | cons e es ih =>
    obtain ⟨k, v⟩ := e
    by_cases hk : k = key
    · subst hk
      simp [put, get?, h.symm]
    · simp only [put, hk, if_false, get?, ih]

/-- A key that is given the value it has changes nothing. -/
theorem put_of_get? {key : κ} {value : α} {es : Keyed κ α} (h : get? key es = some value) :
    put key value es = es := by
  induction es with
  | nil => simp [get?] at h
  | cons e es ih =>
    obtain ⟨k, v⟩ := e
    by_cases hk : k = key
    · simp only [get?, hk, if_true, Option.some.injEq] at h
      simp [put, hk, h]
    · simp only [get?, hk, if_false] at h
      simp [put, hk, ih h]

/-- The last value that a key is given counts. -/
theorem put_put (key : κ) (first last : α) (es : Keyed κ α) :
    put key last (put key first es) = put key last es := by
  induction es with
  | nil => simp [put]
  | cons e es ih =>
    obtain ⟨k, v⟩ := e
    by_cases hk : k = key <;> simp [put, hk, ih]

end Keyed

end ConfigRules
