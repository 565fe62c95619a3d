import ConfigRules.Proofs.Interval.Reading
import ConfigRules.Proofs.Rank

/-!
Intervals of one text. Numbers are told apart by their texts, and so are intervals, except that the
lowest float is written like the mark of a side without bound. Such a pair has the same members if
its lower end is closed, and differs at that float if it is open.
-/

namespace ConfigRules

namespace Binary64

theorem readFloat?_chars (x : Binary64) : Numeral.readFloat? x.chars = some x := by
  cases x with
  | finite x => exact messageStyle.readFloat?_finiteChars x
  | infinite negative => cases negative <;> rfl
  | nan => rfl

/-- A float has a character that no integer has. -/
theorem exists_mark (x : Binary64) : ∃ c ∈ x.chars, ¬ (c.isDigit = true ∨ c = '-') := by
  cases x with
  | finite x =>
    rcases messageStyle.exists_mark x with h | h
    · exact ⟨'.', h, by decide⟩
    · exact ⟨'e', h, by decide⟩
  | infinite negative => cases negative <;> exact ⟨'i', by decide, by decide⟩
  | nan => exact ⟨'N', by decide, by decide⟩

theorem compare?_finite_lowest (x : Finite) :
    (finite x).compare? (.infinite true) = some .gt := by
  have habove : ∀ bound : Nat, x.units < bound → -(bound : Int) < x.signedUnits := by
    intro bound hlt
    unfold Finite.signedUnits
    split <;> omega
  exact congrArg some (Int.compare_eq_gt.mpr (habove _ x.fits.2))

end Binary64

namespace Number

/-- The number below all others. -/
def lowest : Number := float (.infinite true)

variable {m n : Number}

/-- No number is written with a comma. -/
theorem comma_notMem (n : Number) : ',' ∉ n.chars := by
  intro h
  cases n with
  | int n => exact absurd (Numeral.mem_ofInt h) (by decide)
  | float x =>
    cases x with
    | finite x => exact absurd (Binary64.messageStyle.isPart_of_mem_finiteChars h) (by decide)
    | infinite negative => cases negative <;> exact absurd h (by decide)
    | nan => exact absurd h (by decide)

/-- No integer is written like a float. -/
theorem ofInt_ne_chars (n : Int) (x : Binary64) : Numeral.ofInt n ≠ x.chars := by
  intro h
  obtain ⟨c, hc, hmark⟩ := x.exists_mark
  rw [← h] at hc
  exact hmark (Numeral.mem_ofInt hc)

/-- Numbers are told apart by their texts. -/
theorem chars_injective (h : m.chars = n.chars) : m = n := by
  cases m with
  | int m =>
    cases n with
    | int n =>
      have hread := congrArg Numeral.readInt? h
      simp only [chars, Numeral.readInt?_ofInt, Scalar.int64?_toInt, Option.some.injEq] at hread
      rw [hread]
    | float y => exact absurd h (ofInt_ne_chars _ y)
  | float x =>
    cases n with
    | int n => exact absurd h.symm (ofInt_ne_chars _ x)
    | float y =>
      have hread := congrArg Numeral.readFloat? h
      simp only [chars, Binary64.readFloat?_chars, Option.some.injEq] at hread
      rw [hread]

/-- No number is written like the mark of the upper side. -/
theorem chars_ne_upperMark (n : Number) : n.chars ≠ "+inf".toList := by
  intro h
  cases n with
  | int n =>
    have hmem : 'i' ∈ (int n).chars := by
      rw [h]
      decide
    exact absurd (Numeral.mem_ofInt hmem) (by decide)
  | float x =>
    have hread : some x = some (.infinite false) :=
      x.readFloat?_chars.symm.trans (congrArg Numeral.readFloat? h)
    cases hread
    revert h
    decide

theorem compare?_lowest_self : lowest.compare? lowest = some .eq :=
  congrArg some (Int.compare_eq_eq.mpr rfl)

/-- Every other number that is ordered lies above the lowest one. -/
theorem compare?_lowest (hnan : ¬ n.IsNaN) (hne : n ≠ lowest) : n.compare? lowest = some .gt := by
  cases n with
  | int n =>
    have hl := n.le_toInt
    have hu := n.toInt_lt
    obtain ⟨x, hx⟩ := Binary64.ofInt_finite (n := n.toInt) (by omega)
    have hfloat : (int n).compare? lowest =
        (Binary64.ofInt n.toInt).compare? (.infinite true) := rfl
    rw [hfloat, hx, Binary64.compare?_finite_lowest]
  | float x =>
    cases x with
    | finite x => exact Binary64.compare?_finite_lowest x
    | infinite negative =>
      cases negative with
      | true => exact absurd rfl hne
      | false =>
        have habove : ∀ bound : Nat, 0 < bound → -(bound : Int) < bound := by omega
        exact congrArg some (Int.compare_eq_gt.mpr (habove _ Binary64.overflow_pos))
    | nan => exact absurd rfl hnan

end Number

namespace Endpoint

variable {e f : Endpoint} {n : Number} {side : Ordering}

/-- Without a bound a lower side is written like one at the lowest number. -/
theorem boundChars_lower (e : Endpoint) :
    e.boundChars "-inf".toList = (e.number.getD .lowest).chars := by
  unfold boundChars
  cases e.number <;> rfl

/-- Upper bounds are told apart by their texts. -/
theorem number_eq_of_boundChars (h : e.boundChars "+inf".toList = f.boundChars "+inf".toList) :
    e.number = f.number := by
  unfold boundChars at h
  cases he : e.number with
  | none =>
    cases hf : f.number with
    | none => rfl
    | some n =>
      rw [he, hf] at h
      exact absurd h.symm n.chars_ne_upperMark
  | some m =>
    cases hf : f.number with
    | none =>
      rw [he, hf] at h
      exact absurd h m.chars_ne_upperMark
    | some n =>
      rw [he, hf] at h
      rw [Number.chars_injective h]

theorem boundChars_comma (e : Endpoint) {mark : List Char} (hm : mark ∈ Interval.marks) :
    ',' ∉ e.boundChars mark := by
  unfold boundChars
  cases e.number with
  | none =>
    rcases List.mem_pair.mp hm with rfl | rfl <;> decide
  | some n => exact n.comma_notMem

/-- A NaN lies on no side of a bound. -/
theorem admits_nan (h : e.number ≠ none) : e.admits side (.float .nan) = false := by
  obtain ⟨bound, hbound⟩ := Option.ne_none_iff_exists'.mp h
  have hcompare : (Number.float .nan).compare? bound = none := by cases bound <;> rfl
  unfold admits
  rw [hbound]
  dsimp only
  rw [hcompare]

theorem admitsAbove_lowest (he : e.number = some .lowest) (hnan : ¬ n.IsNaN) (hne : n ≠ .lowest) :
    e.admitsAbove n = true := by
  unfold admitsAbove admits
  rw [he]
  dsimp only
  rw [Number.compare?_lowest hnan hne]
  rfl

theorem isOpen_of_leftBracket (h : e.leftBracket = f.leftBracket) : e.isOpen = f.isOpen := by
  unfold leftBracket at h
  cases he : e.isOpen <;> cases hf : f.isOpen <;> simp [he, hf] at h ⊢

theorem isOpen_of_rightBracket (h : e.rightBracket = f.rightBracket) : e.isOpen = f.isOpen := by
  unfold rightBracket at h
  cases he : e.isOpen <;> cases hf : f.isOpen <;> simp [he, hf] at h ⊢

end Endpoint

namespace Interval

variable {i j : Interval} {n : Number} {v : Scalar}

theorem charsOf_eq (lower upper : Endpoint) : charsOf lower upper =
    lower.leftBracket :: (lower.boundChars "-inf".toList ++
      ',' :: (upper.boundChars "+inf".toList ++ [upper.rightBracket])) :=
  charsOf_eq_around lower upper

/-- The text tells both ends, but for a lower side without bound from one at the lowest number. -/
theorem SameText.ends (h : i.SameText j) : i.lower.isOpen = j.lower.isOpen ∧
    i.lower.number.getD .lowest = j.lower.number.getD .lowest ∧ i.upper = j.upper := by
  have hchars : charsOf i.lower i.upper = charsOf j.lower j.upper := String.ofList_injective h
  rw [charsOf_eq, charsOf_eq] at hchars
  obtain ⟨hleft, hrest⟩ := List.cons_eq_cons.mp hchars
  have hcomma : ',' ∉ i.upper.boundChars "+inf".toList ++ [i.upper.rightBracket] := by
    rw [List.mem_append, List.mem_singleton]
    rintro (hin | hin)
    · exact i.upper.boundChars_comma (by decide) hin
    · exact absurd (hin ▸ i.upper.rightBracket_mem) (by decide)
  obtain ⟨hlow, _, hend⟩ :=
    (List.append_cons_inj_of_notMem (i.lower.boundChars_comma (by decide)) hcomma).mp hrest
  obtain ⟨hhigh, hright⟩ := List.append_inj' hend rfl
  rw [Endpoint.boundChars_lower, Endpoint.boundChars_lower] at hlow
  have hupper : i.upper = j.upper := by
    have hnumber := Endpoint.number_eq_of_boundChars hhigh
    have hopen := Endpoint.isOpen_of_rightBracket (List.cons.inj hright).1
    cases hi : i.upper
    cases hj : j.upper
    simp_all
  exact ⟨Endpoint.isOpen_of_leftBracket hleft, Number.chars_injective hlow, hupper⟩

/-- So two intervals of one text are one, or else their lower sides are written alike. -/
theorem SameText.lower_numbers (h : i.SameText j) (hne : i ≠ j) :
    (i.lower.number = none ∧ j.lower.number = some .lowest) ∨
      (i.lower.number = some .lowest ∧ j.lower.number = none) := by
  obtain ⟨hopen, hlow, hupper⟩ := h.ends
  have hlower : i.lower.number ≠ j.lower.number := by
    obtain ⟨⟨low, lowOpen⟩, upper, valid⟩ := i
    obtain ⟨⟨low', lowOpen'⟩, upper', valid'⟩ := j
    simp_all
  cases hi : i.lower.number with
  | none =>
    cases hj : j.lower.number with
    | none => exact absurd (hi.trans hj.symm) hlower
    | some n =>
      rw [hi, hj] at hlow
      exact .inl ⟨rfl, congrArg some hlow.symm⟩
  | some m =>
    cases hj : j.lower.number with
    | none =>
      rw [hi, hj] at hlow
      exact .inr ⟨congrArg some hlow, rfl⟩
    | some n =>
      rw [hi, hj] at hlow
      exact absurd (hi.trans ((congrArg some hlow).trans hj.symm)) hlower

/-- An interval is bounded on one side. -/
theorem upper_bounded (h : i.lower.number = none) : i.upper.number ≠ none := by
  intro hu
  have hvalid := i.valid
  unfold defect? at hvalid
  rw [h, hu] at hvalid
  simp at hvalid

/-- An interval from the lowest number on ends above it. -/
theorem upper_above (h : i.lower.number = some .lowest) : i.upper.admitsBelow .lowest = true := by
  unfold Endpoint.admitsBelow Endpoint.admits
  cases hu : i.upper.number with
  | none => rfl
  | some n =>
    obtain ⟨hnan, hkind, horder⟩ := bounds_ordered h hu
    obtain ⟨order, hcompare⟩ : ∃ order, Number.lowest.compare? n = some order := by
      cases n with
      | int n => cases hkind
      | float x =>
        cases x with
        | nan => exact absurd rfl hnan
        | finite x => exact ⟨_, rfl⟩
        | infinite negative => exact ⟨_, rfl⟩
    have hlt := horder order hcompare
    dsimp only
    rw [hcompare, hlt]
    rfl

/-- A lower side without bound and one at the lowest number admit the same but for that number. -/
theorem admits_eq (hi : i.lower.number = none) (hj : j.lower.number = some .lowest)
    (hu : i.upper = j.upper) (hn : n ≠ .lowest) : i.admits n = j.admits n := by
  unfold admits
  rw [← hu]
  by_cases hnan : n.IsNaN
  · have hbelow : i.upper.admitsBelow n = false := by
      rw [hnan]
      exact Endpoint.admits_nan (upper_bounded hi)
    rw [hbelow, Bool.and_false, Bool.and_false]
  · have hunbounded : i.lower.admitsAbove n = true := by
      unfold Endpoint.admitsAbove Endpoint.admits
      rw [hi]
    rw [hunbounded, Endpoint.admitsAbove_lowest hj hnan hn]

/-- The lowest number itself is a member without a bound, and from itself on if that end is
closed. -/
theorem admits_lowest (hi : i.lower.number = none) (hj : j.lower.number = some .lowest)
    (hu : i.upper = j.upper) :
    i.admits .lowest = true ∧ j.admits .lowest = !j.lower.isOpen := by
  have hbelow := upper_above hj
  unfold admits
  rw [hu, hbelow, Bool.and_true, Bool.and_true]
  unfold Endpoint.admitsAbove Endpoint.admits
  rw [hi, hj]
  dsimp only
  rw [Number.compare?_lowest_self]
  exact ⟨rfl, rfl⟩

theorem contains_of_admits (hv : v ≠ .float (.infinite true))
    (h : ∀ n, n ≠ .lowest → i.admits n = j.admits n) : i.contains v = j.contains v := by
  cases v with
  | int n => exact h _ nofun
  | float x => exact h _ fun hx => hv (by cases hx; rfl)
  | str s => rfl
  | bool b => rfl
  | type k => rfl

/-- Intervals of one text differ at most at the lowest float, and there only if they are two and
open at their lower ends. -/
theorem contains_congr_iff (h : i.SameText j) :
    (∀ v, v ≠ .float (.infinite true) → i.contains v = j.contains v) ∧
      ((∀ v, i.contains v = j.contains v) ↔ i = j ∨ i.lower.isOpen = false) := by
  obtain ⟨hopen, _, hu⟩ := h.ends
  by_cases hij : i = j
  · subst hij
    exact ⟨fun _ _ => rfl, fun _ => .inl rfl, fun _ _ => rfl⟩
  have hother : ∀ v, v ≠ .float (.infinite true) → i.contains v = j.contains v := by
    intro v hv
    apply contains_of_admits hv
    intro n hn
    rcases h.lower_numbers hij with ⟨hi, hj⟩ | ⟨hi, hj⟩
    · exact admits_eq hi hj hu hn
    · exact (admits_eq hj hi hu.symm hn).symm
  have hlowest : i.contains (.float (.infinite true)) = j.contains (.float (.infinite true)) ↔
      i.lower.isOpen = false := by
    change i.admits .lowest = j.admits .lowest ↔ _
    rcases h.lower_numbers hij with ⟨hi, hj⟩ | ⟨hi, hj⟩
    · obtain ⟨hin, hend⟩ := admits_lowest hi hj hu
      rw [hin, hend, hopen]
      simp
    · obtain ⟨hin, hend⟩ := admits_lowest hj hi hu.symm
      rw [hin, hend]
      simp
  refine ⟨hother, fun hall => .inr (hlowest.mp (hall _)), fun hor v => ?_⟩
  by_cases hv : v = .float (.infinite true)
  · subst hv
    exact hlowest.mpr (hor.resolve_left hij)
  · exact hother v hv

/-- Two of one text, closed at their lower ends. -/
theorem contains_congr_closed : ∃ i j, parse "[-1.e400,5.]" = .ok i ∧
    parse "[-inf,5.]" = .ok j ∧ i.SameText j ∧ i ≠ j ∧ ∀ v, i.contains v = j.contains v := by
  obtain ⟨i, hi, hitext, hilow, hiopen⟩ := exists_ok (x := parse "[-1.e400,5.]")
    (p := fun i => i.text = "[-inf,5.0]" ∧ i.lower.number = some .lowest ∧ i.lower.isOpen = false)
    (by decide +kernel)
  obtain ⟨j, hj, hjtext, hjlow⟩ := exists_ok (x := parse "[-inf,5.]")
    (p := fun j => j.text = "[-inf,5.0]" ∧ j.lower.number = none) (by decide +kernel)
  have hne : i ≠ j := by
    rintro rfl
    cases hilow.symm.trans hjlow
  have hsame : i.SameText j := hitext.trans hjtext.symm
  exact ⟨i, j, hi, hj, hsame, hne, (contains_congr_iff hsame).2.mpr (.inr hiopen)⟩

/-- Open at their lower ends, two of one text differ at the lowest float. -/
theorem contains_differs_lowest : ∃ i j, parse "]-1.e400,5.]" = .ok i ∧
    parse "]-inf,5.]" = .ok j ∧ i.SameText j ∧
      i.contains (.float (.infinite true)) = false ∧
      j.contains (.float (.infinite true)) = true := by
  obtain ⟨i, hi, hitext, hin⟩ := exists_ok (x := parse "]-1.e400,5.]")
    (p := fun i => i.text = "]-inf,5.0]" ∧ i.contains (.float (.infinite true)) = false)
    (by decide +kernel)
  obtain ⟨j, hj, hjtext, hjn⟩ := exists_ok (x := parse "]-inf,5.]")
    (p := fun j => j.text = "]-inf,5.0]" ∧ j.contains (.float (.infinite true)) = true)
    (by decide +kernel)
  exact ⟨i, j, hi, hj, hitext.trans hjtext.symm, hin, hjn⟩

end Interval

end ConfigRules
