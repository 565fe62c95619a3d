import ConfigRules.Proofs.Trace

/-!
Which errors come up when. A rule set that is refused gives an error of its definitions, and a rule
that fails in a pass gives an error of the configuration that names the rule.
-/

namespace ConfigRules

/-- A computation that can fail only with errors of definitions. -/
def Definitional {α : Type} (x : Except Error α) : Prop :=
  ∀ e, x = .error e → e.isDefinition = true

namespace Definitional

variable {α β : Type} {x : Except Error α} {f : α → Except Error β}

theorem ok (a : α) : Definitional (.ok a) := fun _ h => nomatch h

theorem error {e : Error} (h : e.isDefinition = true) :
    Definitional (.error e : Except Error α) := by
  intro e' he
  cases he
  exact h

theorem bind (hx : Definitional x) (hf : ∀ a, Definitional (f a)) :
    Definitional (x >>= f) := by
  cases x with
  | error e => exact error (hx e rfl)
  | ok a => exact hf a

theorem mapM (hf : ∀ a, Definitional (f a)) (xs : List α) :
    Definitional (xs.mapM f) := by
  induction xs with
  | nil => exact ok []
  | cons x xs ih =>
    rw [List.mapM_cons]
    exact (hf x).bind fun _ => ih.bind fun _ => ok _

theorem option_mapM (hf : ∀ a, Definitional (f a)) (x : Option α) :
    Definitional (x.mapM f) := by
  cases x with
  | none => exact ok none
  | some a => exact (hf a).bind fun _ => ok _

end Definitional

open Definitional (ok error)

namespace Requirement

variable {rule : String} {k : Kind}

/-- An entry that breaks what is required of it makes the definition wrong, and not the
configuration. -/
theorem checkEntry_definitional (rule key : String) (r : Requirement) (raw : Option Json) :
    Definitional (checkEntry rule key r raw) := by
  unfold checkEntry
  split
  · exact ok _
  · exact error rfl

theorem readKind_definitional (rule : String) (entries : Json.Members) :
    Definitional (readKind rule entries) := by
  refine (checkEntry_definitional rule typeKey ofType _).bind fun x => ?_
  split
  · exact ok _
  · exact error rfl

theorem readPresent_definitional (rule : String) (entries : Json.Members) :
    Definitional (readPresent rule entries) := by
  refine (checkEntry_definitional rule existsKey ofExists _).bind fun x => ?_
  split
  · exact ok _
  · exact error rfl

theorem readValues_definitional (rule : String) (k : Kind) (candidates : List Json) :
    Definitional (readValues rule k candidates) :=
  (Definitional.mapM (fun _ => checkEntry_definitional rule allowedKey _ _) candidates).bind
    fun _ => ok _

theorem readAllowed_definitional (rule : String) (k : Kind) (raw : Json) :
    Definitional (readAllowed rule k raw) := by
  unfold readAllowed
  split
  · split
    · split
      · exact ok _
      · exact error rfl
    · exact readValues_definitional rule k _
    · exact error rfl
  · exact readValues_definitional rule k _
  · exact readValues_definitional rule k _

theorem define_definitional (rule : String) (entries : Json.Members) :
    Definitional (define rule entries) := by
  unfold define
  split
  · exact error rfl
  · refine (readKind_definitional rule entries).bind fun k => ?_
    refine (readPresent_definitional rule entries).bind fun _ => ?_
    refine (Definitional.option_mapM (readAllowed_definitional rule k) _).bind fun allowed => ?_
    refine (Definitional.option_mapM (fun _ => ?_) _).bind fun _ => ok _
    exact checkEntry_definitional rule defaultKey _ _

theorem check_item {r : Requirement} {item : String} {raw : Option Json} {v : Violation}
    (h : r.check item raw = .error v) : v.item = item := by
  unfold check at h
  split at h
  · cases h
    rfl
  · cases h
  · split at h <;> cases h
    rfl
  · split at h
    · cases h
      rfl
    · split at h
      · cases h
      · split at h <;> cases h
        rfl

end Requirement

namespace Rule

theorem readReferences_definitional (name source : String) :
    Definitional (readReferences name source) := by
  unfold readReferences
  dsimp only
  split
  · exact error rfl
  · split
    · exact error rfl
    · exact ok _

theorem override_definitional (name source : String) (entries overrides : Json.Members) :
    Definitional (override name source entries overrides) := by
  induction overrides generalizing entries with
  | nil => exact ok entries
  | cons o rest ih =>
    unfold override
    split
    · rename_i he
      cases he
    · exact error rfl
    · rename_i he
      cases he
      exact ih _

theorem readVariant_definitional (name source : String) (entries overrides : Json.Members) :
    Definitional (readVariant name entries source overrides) := by
  refine (readReferences_definitional name source).bind fun _ => ?_
  refine (override_definitional name source entries overrides).bind fun merged => ?_
  split
  · exact error rfl
  · exact (Requirement.define_definitional name merged).bind fun _ => ok _

theorem define_definitional (name : String) (definition : Json) :
    Definitional (define name definition) := by
  unfold define
  split
  · refine (Requirement.define_definitional name _).bind fun _ => ?_
    refine (Definitional.mapM (fun x => ?_) _).bind fun _ => ok _
    exact readVariant_definitional name x.1 _ x.2
  · exact error rfl

end Rule

/-- The rule or the item that an error names as the one at fault. A condition that belongs to no
rule is named by its source, if it is not an item in it that is missing. -/
def Error.subject? : Error → Option String
  | badRule name _ => some name
  | violation v => some v.item
  | undecided rule _ (.unresolved ..) => rule
  | undecided rule source (.mismatch _) => some (rule.getD source)
  | malformed _ | badInterval .. | cycle _ | notJson => none

/-- An error of a configuration that is held against a rule of a certain name. -/
structure Error.OfCheck (name : String) (e : Error) : Prop where
  late : e.isDefinition = false
  code : e.code ∈ ["MANDATORY_ERROR", "FORBIDDEN_ERROR", "TYPE_ERROR", "NOT_ALLOWED_ERROR",
    "UNRESOLVED_ITEM"]
  subject : e.subject? = some name

theorem Error.ofCheck_violation (v : Violation) : (violation v).OfCheck v.item := by
  refine ⟨rfl, ?_, rfl⟩
  cases v <;> simp [Error.code]

theorem Error.ofCheck_undecided (name source : String) (fault : Condition.Fault) :
    (undecided (some name) source fault).OfCheck name := by
  cases fault with
  | unresolved path position => exact ⟨rfl, by simp [Error.code], rfl⟩
  | mismatch m => exact ⟨rfl, by simp [Error.code], rfl⟩

namespace Rule

variable {r : Rule} {c : Config} {e : Error}

theorem firstHolding_error {name : String} {vs : List Variant}
    (h : firstHolding name c vs = .error e) : e.OfCheck name := by
  induction vs with
  | nil => cases h
  | cons v vs ih =>
    rw [firstHolding] at h
    split at h
    · cases h
      exact Error.ofCheck_undecided name _ _
    · cases h
    · exact ih h

theorem checkSelected_error {selected : Option Variant}
    (h : r.checkSelected c selected = .error e) : e.OfCheck r.name := by
  unfold checkSelected at h
  dsimp only at h
  split at h
  · cases h
  · rename_i v hv
    cases h
    rw [← Requirement.check_item hv]
    exact Error.ofCheck_violation v

/-- A rule that fails does so in a condition or in a requirement, and the error names the rule. -/
theorem resolve_failed (h : (r.resolve c).outcome = .failed e) : e.OfCheck r.name := by
  unfold resolve at h
  split at h
  · rename_i hs
    cases h
    exact firstHolding_error hs
  · dsimp only at h
    split at h
    · cases h
    · cases h
    · rename_i hc
      cases h
      exact checkSelected_error hc

end Rule

namespace Ruleset

theorem ofRules_definitional (rules : List Rule) : Definitional (ofRules rules) := by
  unfold ofRules
  split
  · exact error rfl
  · split
    · exact ok _
    · exact error rfl

theorem ofDefinitions_definitional (definitions : List (String × Json)) :
    Definitional (ofDefinitions definitions) := by
  refine Definitional.bind (.mapM (fun d => ?_) definitions) ofRules_definitional
  exact Rule.define_definitional d.1 d.2

theorem ofText_definitional (text : String) : Definitional (ofText text) := by
  unfold ofText
  split
  · exact error rfl
  · exact ofDefinitions_definitional _
  · exact error rfl

/-- The errors of rule sets and those of configurations keep apart. What refuses a rule set is an
error of its definitions; what a rule fails with in a pass is none, and names that very rule. -/
theorem phases_apart :
    (∀ definitions e, ofDefinitions definitions = .error e → e.isDefinition = true) ∧
      (∀ text e, ofText text = .error e → e.isDefinition = true) ∧
      ∀ (s : Ruleset) (mode : Mode) (c : Config) (k : Nat) (x : Resolution) (e : Error),
        (s.run mode c).1[k]? = some x → x.outcome = .failed e →
          ∃ r, s.ordered[k]? = some r ∧ x.rule = r.name ∧ e.OfCheck r.name := by
  refine ⟨ofDefinitions_definitional, ofText_definitional, ?_⟩
  intro s mode c k x e hx he
  obtain ⟨r, hr, rfl⟩ := pass_resolution hx
  exact ⟨r, hr, r.resolve_rule _, Rule.resolve_failed he⟩

/-- A level that is no integer. -/
def highLevel : Config := [("app", .object [("level", .string "high")])]

/-- The level fails in its requirement and the limit in its condition; a rule that is no object, and
a text that is none, are refused. -/
theorem phases_apart_highLevel : ∃ s x y e e', ofDefinitions limitByLevel = .ok s ∧
    (s.run .collectAll highLevel).1 = [x, y] ∧ x.outcome = .failed e ∧ y.outcome = .failed e' ∧
    x.rule = "/app/level" ∧ e.OfCheck "/app/level" ∧ y.rule = "limit" ∧ e'.OfCheck "limit" ∧
    (∃ e, ofDefinitions [("limit", .null)] = .error e ∧ e.isDefinition = true) ∧
    ∃ e, ofText "[]" = .error e ∧ e.isDefinition = true := by
  obtain ⟨s, hs, hshape⟩ : ∃ s, ofDefinitions limitByLevel = .ok s ∧
      (s.run .collectAll highLevel).1.map (fun x => (x.rule, x.outcome.error?.isSome)) =
        [("/app/level", true), ("limit", true)] := exists_ok (by decide +kernel)
  obtain ⟨x, _, hreport, hx, hrest⟩ := List.map_eq_cons_iff.mp hshape
  obtain ⟨y, _, rfl, hy, hend⟩ := List.map_eq_cons_iff.mp hrest
  obtain rfl := List.map_eq_nil_iff.mp hend
  obtain ⟨hxr, hxe⟩ := Prod.mk.inj hx
  obtain ⟨hyr, hye⟩ := Prod.mk.inj hy
  obtain ⟨e, he⟩ : ∃ e, x.outcome = .failed e := by
    cases h : x.outcome <;> simp [Outcome.error?, h] at hxe ⊢
  obtain ⟨e', he'⟩ : ∃ e, y.outcome = .failed e := by
    cases h : y.outcome <;> simp [Outcome.error?, h] at hye ⊢
  obtain ⟨hdefinitions, htext, hpass⟩ := phases_apart
  obtain ⟨q, _, hq, hof⟩ := hpass s .collectAll highLevel 0 x e (by rw [hreport]; rfl) he
  obtain ⟨r, _, hr, hof'⟩ := hpass s .collectAll highLevel 1 y e' (by rw [hreport]; rfl) he'
  have hnull : ofDefinitions [("limit", .null)] = .error (.badRule "limit" .notObject) := rfl
  obtain ⟨_, hlist⟩ : ∃ e, ofText "[]" = .error e := exists_error (by decide +kernel)
  exact ⟨s, x, y, e, e', hs, hreport, he, he', hxr, hxr ▸ hq ▸ hof, hyr, hyr ▸ hr ▸ hof',
    ⟨_, hnull, hdefinitions _ _ hnull⟩, _, hlist, htext _ _ hlist⟩

end Ruleset

end ConfigRules
