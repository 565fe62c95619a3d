import ConfigRules.Proofs.Condition.Anchor
import ConfigRules.Proofs.Condition.Composition
import ConfigRules.Proofs.Condition.Extension
import ConfigRules.Proofs.Condition.Parser
import ConfigRules.Proofs.Condition.Recognition
import ConfigRules.Proofs.Phase

/-!
What deciding a condition comes to. The formula of a source joins nothing that does not belong
together, so it can fail only on a configuration: where one of its items has no value, or where
values do not go together.
-/

namespace ConfigRules

namespace Condition

/-- A literal, or an item whose path and place have a property. -/
inductive Formula.Simple (P : Path → Nat → Prop) : Formula → Prop
  | number {n position} : Simple P (.number n position)
  | text {s position} : Simple P (.text s position)
  | item {path position} (h : P path position) : Simple P (.item path position)

/-- An item of a condition, at a place where the condition's source has it in braces. -/
def Names (x : Condition) (path : Path) (position : Nat) : Prop :=
  Formula.bracedChars path <+: x.source.toList.drop position ∧ path ∈ x.items

/-- Comparisons and memberships take literals, and items that the source has at their places. -/
theorem composed_of_parse {source : String} {x : Condition} (h : Condition.parse source = .ok x) :
    x.formula.Composed (Formula.Simple x.Names) := by
  obtain ⟨f, hformula, hx⟩ := bind_ok.mp h
  cases pure_ok.mp hx
  obtain ⟨tokens, hall, hparse⟩ := Formula.parse_ok.mp hformula
  refine (Parser.derives_of_parse hparse).composed fun t ht x hoperand => ?_
  cases hoperand with
  | number => exact .number
  | text => exact .text
  | item hpath =>
    have hanchored := Token.all_anchored hall t ht
    refine .item ⟨hanchored.item _ hpath ▸ hanchored.stands, mem_items.mpr ?_⟩
    rw [Parser.parse_items hparse]
    exact List.mem_filterMap.mpr ⟨t, ht, by rw [hpath]; rfl⟩

/-- It is values that do not go together, and not the parts of a formula. -/
def Mismatch.OfValues : Mismatch → Prop
  | notCondition _ | notOperand _ => False
  | notTruth .. | notScalar .. | mixedKinds .. | unrelated .. => True
  | unlisted .. | inconvertible .. => True

/-- Why a formula of simple operands cannot be decided: an item with the property is absent or null,
or values do not go together. -/
inductive Fault.Explained (P : Path → Nat → Prop) (c : Config) : Fault → Prop
  | unresolved {path position} (h : P path position)
    (hv : path.get? c = none ∨ path.get? c = some .null) : Explained P c (.unresolved path position)
  | mismatch {m} (h : m.OfValues) : Explained P c (.mismatch m)

namespace Formula

variable {P : Path → Nat → Prop} {c : Config} {e : Fault} {f g : Formula} {fs : List Formula}

theorem resolve_explained {path : Path} {position : Nat} (hp : P path position)
    (h : resolve c path position = .error e) : e.Explained P c := by
  unfold resolve at h
  split at h
  · rename_i hnone
    cases h
    exact .unresolved hp (.inl hnone)
  · rename_i hnull
    cases h
    exact .unresolved hp (.inr hnull)
  · split at h <;> cases h
    exact .mismatch trivial

theorem value_explained (hf : f.Simple P) (h : f.value c = .error e) : e.Explained P c := by
  cases hf with
  | number => cases h
  | text => cases h
  | item hp => exact resolve_explained hp h

theorem relates_explained {r : Relation} (hf : f.Simple P) (hg : g.Simple P)
    (h : relates c r f g = .error e) : e.Explained P c := by
  rcases bind_error.mp h with hleft | ⟨left, _, h⟩
  · exact value_explained hf hleft
  rcases bind_error.mp h with hright | ⟨right, _, h⟩
  · exact value_explained hg hright
  split at h
  · cases h
    exact .mismatch trivial
  · split at h <;> cases h
    exact .mismatch trivial

theorem anyEqual_explained {subject : Scalar} (hs : ∀ g ∈ fs, g.Simple P)
    (h : anyEqual c subject fs = .error e) : e.Explained P c := by
  induction fs with
  | nil => cases h
  | cons g fs ih =>
    rw [List.forall_mem_cons] at hs
    rcases bind_error.mp h with helement | ⟨element, _, h⟩
    · exact value_explained hs.1 helement
    split at h
    · cases h
      exact .mismatch trivial
    · split at h
      · cases h
      · exact ih hs.2 h

theorem isMember_explained (hf : f.Simple P) (hs : ∀ g ∈ fs, g.Simple P)
    (h : isMember c f fs = .error e) : e.Explained P c := by
  rcases bind_error.mp h with hsubject | ⟨subject, _, h⟩
  · exact value_explained hf hsubject
  split at h
  · exact anyEqual_explained hs h
  · exact anyEqual_explained hs h
  · exact anyEqual_explained hs h
  · cases h
    exact .mismatch trivial

/-- A formula of simple operands fails only for such a reason. -/
theorem holds_explained (hf : f.Composed (Simple P)) (h : f.holds c = .error e) :
    e.Explained P c := by
  -- A connective fails with its left side, or with its right side if it gets there.
  induction hf generalizing e with
  | truth => cases h
  | item hp =>
    rcases bind_error.mp h with hitem | ⟨v, _, h⟩
    · exact value_explained hp hitem
    split at h <;> cases h
    exact .mismatch trivial
  | not _ ih =>
    rcases bind_error.mp h with hinner | ⟨_, _, h⟩
    · exact ih hinner
    · cases h
  | and _ _ ihf ihg =>
    rcases bind_error.mp h with hleft | ⟨left, _, h⟩
    · exact ihf hleft
    split at h
    · exact ihg h
    · cases h
  | or _ _ ihf ihg =>
    rcases bind_error.mp h with hleft | ⟨left, _, h⟩
    · exact ihf hleft
    split at h
    · cases h
    · exact ihg h
  | compare hf hg => exact relates_explained hf hg h
  | member hf _ hs =>
    rcases bind_error.mp h with hmember | ⟨_, _, h⟩
    · exact isMember_explained hf hs hmember
    · cases h

end Formula

/-- A condition that belongs to no rule, decided on a configuration. -/
def evaluate (x : Condition) (c : Config) : Except Error Bool :=
  (x.holds c).mapError (.undecided none x.source)

theorem evaluate_error {x : Condition} {c : Config} {e : Error} :
    x.evaluate c = .error e ↔
      ∃ fault, x.holds c = .error fault ∧ .undecided none x.source fault = e := by
  unfold evaluate
  cases x.holds c <;> simp [Except.mapError]

/-- Errors tell the truth about items. If a condition fails for an unresolved item, then the error
quotes the source, the source has the item in braces at the error's position, and the configuration
has no value for it. Where all its items have values, a condition fails for mismatched values only,
and the error names the source. -/
theorem evaluate_truthful {source : String} {x : Condition} (h : Condition.parse source = .ok x)
    (c : Config) :
    (∀ e, x.evaluate c = .error e → e.code = "UNRESOLVED_ITEM" → ∃ path position,
      e = .undecided none source (.unresolved path position) ∧
        Formula.bracedChars path <+: source.toList.drop position ∧ path ∈ x.items ∧
        (path.get? c = none ∨ path.get? c = some .null)) ∧
      ((∀ p ∈ x.items, ∃ v, p.get? c = some v ∧ v ≠ .null) →
        ∀ e, x.evaluate c = .error e → e.code = "TYPE_ERROR" ∧ e.subject? = some source) := by
  have hsource := parse_source h
  have hcomposed := composed_of_parse h
  constructor
  · intro e he hcode
    obtain ⟨fault, hfault, rfl⟩ := evaluate_error.mp he
    cases Formula.holds_explained hcomposed hfault with
    | unresolved hnames hv =>
      rw [Names, hsource] at hnames
      exact ⟨_, _, by rw [hsource], hnames.1, hnames.2, hv⟩
    | mismatch => simp [Error.code] at hcode
  · intro hpresent e he
    obtain ⟨fault, hfault, rfl⟩ := evaluate_error.mp he
    cases Formula.holds_explained hcomposed hfault with
    | unresolved hnames hv =>
      obtain ⟨v, hget, hnull⟩ := hpresent _ hnames.2
      rcases hv with hv | hv
      · cases hv.symm.trans hget
      · exact absurd (Option.some.inj (hget.symm.trans hv)) hnull
    | mismatch => exact ⟨rfl, congrArg some hsource⟩

/-- A level that must be off or out of a list where a switch is on. -/
def guarded : String := "{on} and ({level} == 0 or {level} not in (3, 4))"

/-- Without a level an item is unresolved, and a level that is no number goes with none. -/
theorem exists_guarded : ∃ x, Condition.parse guarded = .ok x ∧
    x.items = [⟨"on"⟩, ⟨"level"⟩] ∧
    (failure? (x.evaluate switched)).map Error.code = some "UNRESOLVED_ITEM" ∧
    (failure? (x.evaluate switchedHigh)).map Error.code = some "TYPE_ERROR" :=
  exists_ok (by decide +kernel)

theorem evaluate_truthful_guarded : ∃ x, Condition.parse guarded = .ok x ∧
    (∃ e path position, x.evaluate switched = .error e ∧ e.code = "UNRESOLVED_ITEM" ∧
      e = .undecided none guarded (.unresolved path position) ∧
      Formula.bracedChars path <+: guarded.toList.drop position ∧ path ∈ x.items ∧
      (path.get? switched = none ∨ path.get? switched = some .null)) ∧
    (∀ p ∈ x.items, ∃ v, p.get? switchedHigh = some v ∧ v ≠ .null) ∧
    ∃ e, x.evaluate switchedHigh = .error e ∧ e.code = "TYPE_ERROR" ∧
      e.subject? = some guarded := by
  obtain ⟨x, h, hitems, hmissing, hhigh⟩ := exists_guarded
  obtain ⟨e, he, hcode⟩ := Option.map_eq_some_iff.mp hmissing
  obtain ⟨e', he', _⟩ := Option.map_eq_some_iff.mp hhigh
  rw [failure?_eq_some] at he he'
  have hpresent : ∀ p ∈ x.items, ∃ v, p.get? switchedHigh = some v ∧ v ≠ .null := by
    intro p hp
    rw [hitems] at hp
    rcases List.mem_pair.mp hp with rfl | rfl
    · exact ⟨.bool true, rfl, nofun⟩
    · exact ⟨.string "high", rfl, nofun⟩
  obtain ⟨path, position, hfound⟩ := (evaluate_truthful h switched).1 e he hcode
  exact ⟨x, h, ⟨e, path, position, he, hcode, hfound⟩, hpresent, e', he',
    (evaluate_truthful h switchedHigh).2 hpresent e' he'⟩

/-- What a formula is joined from. -/
def Formula.parts : Formula → List Formula
  | not f => [f]
  | and f g | or f g | compare _ f g => [f, g]
  | member f _ fs => f :: fs
  | truth _ | number .. | text .. | item .. => []

/-- A formula stands somewhere in another one, or is the whole of it. -/
inductive Formula.Occurs (f : Formula) : Formula → Prop
  | here : Occurs f f
  | inside {g h} (hg : g ∈ h.parts) (hf : Occurs f g) : Occurs f h

def Formula.IsLiteral : Formula → Prop
  | number .. | text .. => True
  | _ => False

def Formula.IsOperand : Formula → Prop
  | number .. | text .. | item .. => True
  | _ => False

/-- The parts of a formula are such as it can be decided with: no connective has a literal, what is
compared or listed is an operand, and what compares is no connective. -/
def Formula.WellJoined : Formula → Prop
  | not f => ¬ f.IsLiteral
  | and f g | or f g => ¬ f.IsLiteral ∧ ¬ g.IsLiteral
  | compare r f g => r.symbol ∉ ["and", "or"] ∧ f.IsOperand ∧ g.IsOperand
  | member f _ fs => f.IsOperand ∧ fs ≠ [] ∧ ∀ g ∈ fs, g.IsOperand
  | truth _ | number .. | text .. | item .. => True

namespace Formula

variable {P : Path → Nat → Prop} {f g : Formula}

theorem Simple.isOperand (h : f.Simple P) : f.IsOperand := by
  cases h <;> trivial

theorem Composed.not_isLiteral {Q : Formula → Prop} (h : f.Composed Q) : ¬ f.IsLiteral := by
  cases h <;> exact id

theorem Composed.wellJoined (h : f.Composed (Simple P)) : f.WellJoined := by
  cases h with
  | truth => trivial
  | item => trivial
  | not h => exact h.not_isLiteral
  | and hf hg => exact ⟨hf.not_isLiteral, hg.not_isLiteral⟩
  | or hf hg => exact ⟨hf.not_isLiteral, hg.not_isLiteral⟩
  | @compare r f g hf hg => exact ⟨by cases r <;> decide, hf.isOperand, hg.isOperand⟩
  | member hf hne hs => exact ⟨hf.isOperand, hne, fun g hg => (hs g hg).isOperand⟩

theorem Composed.parts {Q : Formula → Prop} (h : f.Composed Q) :
    ∀ g ∈ f.parts, g.Composed Q ∨ Q g := by
  cases h with
  | truth => exact List.forall_mem_nil _
  | item => exact List.forall_mem_nil _
  | not h => simp [Formula.parts, h]
  | and hf hg => simp [Formula.parts, hf, hg]
  | or hf hg => simp [Formula.parts, hf, hg]
  | compare hf hg => simp [Formula.parts, hf, hg]
  | member hf _ hs =>
    rw [Formula.parts, List.forall_mem_cons]
    exact ⟨.inr hf, fun g hg => .inr (hs g hg)⟩

theorem Simple.parts (h : f.Simple P) : f.parts = [] := by
  cases h <;> rfl

/-- Whatever stands in a formula that is made up well is made up well itself. -/
theorem Occurs.wellJoined (h : f.Occurs g) (hg : g.Composed (Simple P) ∨ g.Simple P) :
    f.WellJoined := by
  induction h with
  | here =>
    rcases hg with hcomposed | hsimple
    · exact hcomposed.wellJoined
    · cases hsimple <;> trivial
  | inside hpart _ ih =>
    rcases hg with hcomposed | hsimple
    · exact ih (hcomposed.parts _ hpart)
    · rw [hsimple.parts] at hpart
      cases hpart

end Formula

/-- What comes of a source is joined well throughout, and is itself no literal; what compares is
never a connective. So on no configuration does it turn out that a literal was to be decided, or
that something else than an operand was to be compared. -/
theorem parse_wellJoined {source : String} {x : Condition} (h : Condition.parse source = .ok x) :
    (∀ f : Formula, f.Occurs x.formula → f.WellJoined) ∧ ¬ x.formula.IsLiteral ∧
      ∀ c m, x.holds c = .error (.mismatch m) →
        (∀ f, m ≠ .notCondition f) ∧ ∀ f, m ≠ .notOperand f := by
  have hcomposed := composed_of_parse h
  refine ⟨fun f hf => hf.wellJoined (.inl hcomposed), hcomposed.not_isLiteral, ?_⟩
  intro c m hm
  cases Formula.holds_explained hcomposed hm with
  | mismatch hvalues =>
    constructor
    · rintro f rfl
      exact hvalues
    · rintro f rfl
      exact hvalues

theorem parse_wellJoined_guarded : ∃ x m, Condition.parse guarded = .ok x ∧
    (∀ f : Formula, f.Occurs x.formula → f.WellJoined) ∧ ¬ x.formula.IsLiteral ∧
    x.holds switchedHigh = .error (.mismatch m) ∧ (∀ f, m ≠ .notCondition f) ∧
    ∀ f, m ≠ .notOperand f := by
  obtain ⟨x, h, _, _, hhigh⟩ := exists_guarded
  obtain ⟨e, he, hcode⟩ := Option.map_eq_some_iff.mp hhigh
  obtain ⟨fault, hfault, rfl⟩ := evaluate_error.mp (failure?_eq_some.mp he)
  obtain ⟨hjoined, hliteral, hmismatch⟩ := parse_wellJoined h
  cases fault with
  | unresolved => simp [Error.code] at hcode
  | mismatch m => exact ⟨x, m, h, hjoined, hliteral, hfault, hmismatch _ m hfault⟩

end Condition

end ConfigRules
