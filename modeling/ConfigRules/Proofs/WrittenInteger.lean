import ConfigRules.Proofs.Definition
import ConfigRules.Error
import ConfigRules.Proofs.Except
import ConfigRules.Proofs.Integer

/-!
Integers as numbers and as texts. A requirement for integers treats a number and the text that is
written for it alike, whatever white space is around the text.
-/

namespace ConfigRules

/-- The white space around a text is taken off, and no more than that. -/
theorem Text.trimChars_around {before cs after : List Char}
    (hbefore : ∀ c ∈ before, isBlank c = true) (hafter : ∀ c ∈ after, isBlank c = true)
    (hne : cs ≠ []) (hcs : ∀ c ∈ cs, isBlank c = false) :
    trimChars (before ++ (cs ++ after)) = cs := by
  have hstays : ∀ ds : List Char, (∀ c ∈ ds, isBlank c = false) → ds ≠ [] → ∀ es : List Char,
      (ds ++ es).dropWhile isBlank = ds ++ es := by
    intro ds hds hne es
    obtain ⟨d, ds, rfl⟩ := List.exists_cons_of_ne_nil hne
    exact List.dropWhile_cons_of_neg (by simp [hds d List.mem_cons_self])
  have hback := hstays cs.reverse (by simpa using hcs) (by simpa using hne) []
  rw [List.append_nil] at hback
  unfold trimChars
  rw [List.dropWhile_append_of_pos hbefore, hstays cs hcs hne, List.reverse_append,
    List.dropWhile_append_of_pos (by simpa using hafter), hback, List.reverse_reverse]

namespace Numeral

theorem not_blank_of_mem_ofInt {n : Int} {c : Char} (h : c ∈ ofInt n) : Text.isBlank c = false := by
  obtain hdigit | rfl := mem_ofInt h
  · exact Text.isBlank_of_isDigit hdigit
  · decide

end Numeral

/-- An integer as text, with white space around it. -/
def writtenInteger (before : List Char) (n : Int) (after : List Char) : String :=
  String.ofList (before ++ (Numeral.ofInt n ++ after))

variable {before after : List Char} {n : Int}

namespace Scalar

theorem kind_of_convert? {k : Kind} {s : String} {v : Scalar} (h : k.convert? s = some v) :
    v.kind = k := by
  cases k <;> unfold Kind.convert? at h <;> dsimp only at h
  case str => exact Option.some.inj h ▸ rfl
  case int | type =>
    obtain ⟨x, -, rfl⟩ := Option.map_eq_some_iff.mp h
    rfl
  case float => split at h <;> cases h; rfl
  case bool =>
    split at h
    · cases h; rfl
    · split at h <;> cases h; rfl

/-- A text with a digit in it names no kind and no truth value. -/
theorem read_of_digit {s : String} (h : ∃ c ∈ s.toList, c.isDigit = true) :
    read s = ([Kind.int, .float].findSome? (·.convert? s)).getD (.str s) := by
  have hne : ∀ word : String, (∀ c ∈ word.toList, c.isDigit = false) → word ≠ s := by
    rintro _ hword rfl
    obtain ⟨c, hc, hdigit⟩ := h
    exact Bool.noConfusion ((hword c hc).symm.trans hdigit)
  have htype : Kind.convert? .type s = none := by
    have hdeclared : Kind.declared? s = none := by
      unfold Kind.declared?
      rw [List.find?_eq_none]
      intro k _
      rw [decide_eq_true_eq]
      exact hne k.name (by cases k <;> simp [Kind.name])
    unfold Kind.convert?
    rw [hdeclared]
    rfl
  have hbool : Kind.convert? .bool s = none := by
    unfold Kind.convert?
    dsimp only
    rw [if_neg (hne _ (by simp)).symm, if_neg (hne _ (by simp)).symm]
  unfold read
  simp only [List.findSome?, htype, hbool]

/-- An integer that has 64 bits is read from its text, and any other one is not read as one. -/
theorem read_writtenInteger (hbefore : ∀ c ∈ before, Text.isBlank c = true)
    (hafter : ∀ c ∈ after, Text.isBlank c = true) :
    (∀ i, Numeral.int64? n = some i → read (writtenInteger before n after) = .int i) ∧
      (Numeral.int64? n = none → (read (writtenInteger before n after)).kind ≠ .int) := by
  have hdigit : ∃ c ∈ (writtenInteger before n after).toList, c.isDigit = true := by
    obtain ⟨c, cs, hcs, hc⟩ := Numeral.toDigits_cons n.natAbs
    exact ⟨c, by simp [writtenInteger, Numeral.ofInt, hcs], hc⟩
  have hint : Kind.convert? .int (writtenInteger before n after) =
      (Numeral.int64? n).map .int := by
    have htrim := Text.trimChars_around hbefore hafter (Numeral.ofInt_ne_nil n)
      fun _ => Numeral.not_blank_of_mem_ofInt
    simp only [Kind.convert?, writtenInteger, String.toList_ofList, htrim, Numeral.readInt?_ofInt]
  rw [read_of_digit hdigit]
  refine ⟨fun i hi => ?_, fun hn => ?_⟩
  · simp [List.findSome?, hint, hi]
  · cases hfloat : Kind.convert? .float (writtenInteger before n after) with
    | none => simp [List.findSome?, hint, hn, hfloat, kind]
    | some v => simp [List.findSome?, hint, hn, hfloat, kind_of_convert? hfloat]

end Scalar

namespace Requirement

variable {r : Requirement} {item : String} {j k : Json}

/-- A text counts as what is read from it. -/
theorem coerce_text {k : Kind} (hk : k ≠ .str) (s : String) : coerce k (.string s) =
    if (Scalar.read s).kind = k then .ok (Scalar.read s) else .error (.otherText k s) := by
  have hother : (Scalar.str s).kind ≠ k := hk.symm
  unfold coerce
  dsimp only [Scalar.ofJson?]
  rw [if_neg hother]

/-- An integer that has 64 bits is that integer in either form, and any other one is in neither. -/
theorem coerce_integer (hbefore : ∀ c ∈ before, Text.isBlank c = true)
    (hafter : ∀ c ∈ after, Text.isBlank c = true) (fits : -2 ^ 63 ≤ n ∧ n < 2 ^ 64) :
    (∃ i : Int64, i.toInt = n ∧ coerce .int (.number (.integer n fits)) = .ok (.int i) ∧
        coerce .int (.string (writtenInteger before n after)) = .ok (.int i)) ∨
      2 ^ 63 ≤ n ∧ (∃ e, coerce .int (.number (.integer n fits)) = .error e) ∧
        ∃ f, coerce .int (.string (writtenInteger before n after)) = .error f := by
  obtain ⟨hread, hother⟩ := Scalar.read_writtenInteger (n := n) hbefore hafter
  cases hi : Numeral.int64? n with
  | some i =>
    refine .inl ⟨i, Numeral.toInt_of_int64? hi, ?_, ?_⟩
    · simp [coerce, Scalar.ofJson?, hi, Scalar.kind]
    · rw [coerce_text (by decide), hread i hi]
      rfl
  | none =>
    have hlarge : 2 ^ 63 ≤ n := by
      unfold Numeral.int64? at hi
      split at hi
      · cases hi
      · omega
    refine .inr ⟨hlarge, ?_, ?_⟩
    · simp [coerce, Scalar.ofJson?, hi, Scalar.kind]
    · exact ⟨_, (coerce_text (by decide) _).trans (if_neg (hother hi))⟩

theorem check_of_coerce_eq (hj : given? (some j) = some j) (hk : given? (some k) = some k)
    (h : coerce r.kind j = coerce r.kind k) :
    r.check item (some j) = r.check item (some k) := by
  unfold check
  rw [hj, hk]
  cases r.present <;> simp only [h]

theorem check_of_coerce_error {e : KindFault} (item : String) (hj : given? (some j) = some j)
    (h : coerce r.kind j = .error e) : r.check item (some j) =
      .error (if r.present then .mistyped item e else .forbidden item) := by
  unfold check
  rw [hj]
  cases r.present <;> simp [h]

/-- A requirement for integers comes to the same for a number and for its text, where the values, or
the codes of the violations, are the same. If the integer has 64 bits, nothing tells them apart. -/
theorem check_writtenInteger (hint : r.kind = .int) (n : Int) (fits : -2 ^ 63 ≤ n ∧ n < 2 ^ 64)
    (hbefore : ∀ c ∈ before, Text.isBlank c = true)
    (hafter : ∀ c ∈ after, Text.isBlank c = true) (item : String) :
    let number := r.check item (some (.number (.integer n fits)))
    let text := r.check item (some (.string (writtenInteger before n after)))
    ((∃ x, number = .ok x ∧ text = .ok x) ∨ ∃ v w, number = .error v ∧ text = .error w ∧
        (Error.violation v).code = (Error.violation w).code) ∧
      (n < 2 ^ 63 → number = text) ∧
      ∀ v, number = .ok (some v) → ∃ i : Int64, v = .int i ∧ i.toInt = n := by
  intro number text
  obtain ⟨i, hi, hnumber, htext⟩ | ⟨hlarge, ⟨e, he⟩, f, hf⟩ := coerce_integer hbefore hafter fits
  · have hsame : number = text :=
      check_of_coerce_eq rfl rfl (by rw [hint, hnumber, htext])
    refine ⟨?_, fun _ => hsame, ?_⟩
    · rw [← hsame]
      cases number with
      | ok x => exact .inl ⟨x, rfl, rfl⟩
      | error v => exact .inr ⟨v, v, rfl, rfl, rfl⟩
    · intro v hv
      obtain ⟨-, ⟨hgiven, -⟩ | ⟨j, hgiven, hv, -⟩⟩ := check_some hv
      · cases hgiven
      · cases hgiven
        cases (hint ▸ hv).symm.trans hnumber
        exact ⟨i, rfl, hi⟩
  · have hnumber := check_of_coerce_error item rfl (hint ▸ he)
    have htext := check_of_coerce_error item rfl (hint ▸ hf)
    refine ⟨.inr ⟨_, _, hnumber, htext, ?_⟩, fun hn => absurd hn (by omega), ?_⟩
    · cases r.present <;> rfl
    · intro v hv
      cases hnumber.symm.trans hv

/-- An integer from zero to a hundred. -/
def percent : Json.Members :=
  [("exists", .bool true), ("type", .string "int"), ("allowed", .string "[0,100]")]

/-- An integer that is allowed, and the first one that is none for a requirement. -/
theorem check_writtenInteger_percent : ∃ r, define "percent" percent = .ok r ∧ r.kind = .int ∧
    r.check "percent" (some (.number (.integer 50 (by decide)))) =
      r.check "percent" (some (.string "\u00a050\n")) ∧
    (r.check "percent" (some (.string "\u00a050\n"))).toOption = some (some (.int 50)) ∧
    ∃ v w, r.check "percent" (some (.number (.integer (2 ^ 63) (by decide)))) = .error v ∧
      r.check "percent" (some (.string "\u00a09223372036854775808\n")) = .error w ∧
      (Error.violation v).code = (Error.violation w).code := by
  obtain ⟨r, hr, hint, hallowed, hlarge⟩ : ∃ r, define "percent" percent = .ok r ∧
      r.kind = .int ∧
      (r.check "percent" (some (.string "\u00a050\n"))).toOption = some (some (.int 50)) ∧
      (r.check "percent" (some (.number (.integer (2 ^ 63) (by decide))))).toOption = none :=
    exists_ok (by decide +kernel)
  have hbefore : ∀ c ∈ ['\u00a0'], Text.isBlank c = true :=
    List.forall_mem_singleton.mpr (by decide)
  have hafter : ∀ c ∈ ['\n'], Text.isBlank c = true :=
    List.forall_mem_singleton.mpr (by decide)
  obtain ⟨-, hsame, -⟩ := check_writtenInteger hint 50 (by decide) hbefore hafter "percent"
  obtain ⟨⟨x, hx, -⟩ | hcodes, -⟩ :=
    check_writtenInteger hint (2 ^ 63) (by decide) hbefore hafter "percent"
  · rw [hx] at hlarge
    cases hlarge
  · exact ⟨r, hr, hint, hsame (by decide), hallowed, hcodes⟩

end Requirement

end ConfigRules
