import ConfigRules.Proofs.Coverage

/-!
The references of a rule and the tokens of its conditions. Where the conditions are plain, a rule
refers to the items that their tokens name, each of them once and in the order of the definition.
-/

namespace ConfigRules

namespace Path

/-- The item of a path does not come up among others. -/
def NewTo (p : Path) (others : List Path) : Prop := ∀ q ∈ others, ¬ q.SameItem p

instance (p : Path) (others : List Path) : Decidable (p.NewTo others) :=
  inferInstanceAs (Decidable (∀ q ∈ others, _))

theorem newTo_append_singleton {p q : Path} {others : List Path} :
    q.NewTo (others ++ [p]) ↔ q.NewTo others ∧ ¬ p.SameItem q := by
  simp [NewTo, or_imp, forall_and]

/-- A path that is not new adds nothing to what others are held against. -/
theorem newTo_append_of_not {p q : Path} {others : List Path} (hp : ¬ p.NewTo others) :
    q.NewTo (others ++ [p]) ↔ q.NewTo others := by
  rw [newTo_append_singleton]
  refine and_iff_left_of_imp ?_
  intro hq hsame
  apply hp
  intro o ho hop
  exact hq o ho (hop.trans hsame)

/-- The paths of a list whose items do not come up before them. -/
def firsts (ps : List Path) : List Path :=
  (ps.zipIdx.filter fun x => x.1.NewTo (ps.take x.2)).map Prod.fst

/-- What is left out for a path that is kept is left out for any path before it, since one that is
not kept is the same item as one that is. -/
theorem eraseDupsBy_newTo (seen ps : List Path) :
    (ps.filter fun p => p.NewTo seen).eraseDupsBy (fun p q => p.SameItem q) =
      ((ps.zipIdx seen.length).filter fun x => x.1.NewTo ((seen ++ ps).take x.2)).map Prod.fst := by
  induction ps generalizing seen with
  | nil => rfl
  | cons p ps ih =>
    have hrest := ih (seen ++ [p])
    rw [List.length_append, List.length_singleton, List.append_assoc, List.singleton_append]
      at hrest
    by_cases hp : p.NewTo seen
    · have hkept :
          (ps.filter fun q => q.NewTo seen).filter (fun q => decide (q.SameItem p) = false) =
            ps.filter fun q => q.NewTo (seen ++ [p]) := by
        rw [List.filter_filter]
        apply List.filter_congr
        intro q _
        simp [newTo_append_singleton, SameItem, eq_comm, Bool.and_comm]
      simp only [List.zipIdx_cons, List.filter_cons, List.take_left, hp, decide_true, if_true,
        List.eraseDupsBy_cons, List.map_cons]
      rw [hkept, hrest]
    · have hkept : (ps.filter fun q => q.NewTo seen) =
          ps.filter fun q => q.NewTo (seen ++ [p]) := by
        simp only [newTo_append_of_not hp]
      simp only [List.zipIdx_cons, List.filter_cons, List.take_left, hp, decide_false,
        Bool.false_eq_true, if_false]
      rw [hkept, hrest]

theorem eraseDupsBy_eq_firsts (ps : List Path) :
    ps.eraseDupsBy (fun p q => p.SameItem q) = firsts ps := by
  have hall : (ps.filter fun p => p.NewTo []) = ps := List.filter_eq_self.mpr (by simp [NewTo])
  rw [← hall, eraseDupsBy_newTo, hall]
  rfl

end Path

namespace Condition

instance (source : String) : Decidable (Plain source) :=
  inferInstanceAs (Decidable (∀ tokens, Token.all source = .ok tokens → ∀ t ∈ tokens, _))

/-- The items that the tokens of a text name, in the order of the text. -/
def tokenItems (source : String) : List Path :=
  ((Token.all source).toOption.getD []).filterMap fun t => t.lexeme.path?

/-- In a plain condition the tokens name the items of the formula, and so do the references. -/
theorem parse_tokenItems {source : String} {x : Condition} (h : parse source = .ok x)
    (hp : Plain source) :
    x.formula.items = tokenItems source ∧ Reference.paths source = tokenItems source := by
  have hitems := parse_paths h hp
  obtain ⟨f, hf, _⟩ := bind_ok.mp h
  obtain ⟨tokens, htokens, _⟩ := Formula.parse_ok.mp hf
  have hnamed : tokenItems source = tokens.filterMap fun t => t.lexeme.path? := by
    rw [tokenItems, htokens]
    rfl
  have hpaths := Token.all_paths htokens (hp tokens htokens)
  rw [← hnamed] at hpaths
  exact ⟨hitems ▸ hpaths, hpaths⟩

end Condition

namespace Rule

variable {name : String} {definition : Json} {r : Rule}

theorem readVariant_source {source : String} {entries overrides : Json.Members} {v : Variant}
    {found : List Path} (h : readVariant name entries source overrides = .ok (v, found)) :
    v.condition.source = source := by
  obtain ⟨_, _, h⟩ := bind_ok.mp h
  obtain ⟨_, _, h⟩ := bind_ok.mp h
  split at h
  · cases h
  · rename_i x hx
    obtain ⟨_, _, h⟩ := bind_ok.mp h
    cases pure_ok.mp h
    exact Condition.parse_source hx

/-- The conditions of a rule are the keys of its sections, in the same order. -/
theorem define_sources (h : define name definition = .ok r) :
    r.variants.map (fun v => v.condition.source) =
      (sections definition.members).map Prod.fst := by
  unfold define at h
  split at h
  · rename_i entries
    obtain ⟨base, _, h⟩ := bind_ok.mp h
    obtain ⟨read, hread, h⟩ := bind_ok.mp h
    cases pure_ok.mp h
    rw [List.map_map, ← List.forall₂_eq_eq_eq, List.forall₂_map_left_iff,
      List.forall₂_map_right_iff]
    exact (mapM_ok.mp hread).flip.imp fun _ _ => readVariant_source
  · cases h

/-- The scan of a definition's conditions and their tokens agree. If no text in quotes holds an
opening brace and no item runs over the end of a line, the rule refers to the items that the tokens
of its conditions name, in order and each item once. Those are the items of its formulas, and the
rule's own is not among them. -/
theorem references_eq_firsts (h : define name definition = .ok r)
    (hp : ∀ x ∈ sections definition.members, Condition.Plain x.1) :
    r.variants.map (fun v => v.condition.source) = (sections definition.members).map Prod.fst ∧
      r.references =
        Path.firsts ((sections definition.members).flatMap fun x => Condition.tokenItems x.1) ∧
      (∀ v ∈ r.variants, v.condition.formula.items = Condition.tokenItems v.condition.source) ∧
      ∀ p ∈ r.references, ¬ p.SameItem ⟨name⟩ := by
  obtain ⟨hname, _, read, hvariants, hreferences, hread⟩ := define_ok h
  have hdefined := define_defined h
  have hsources := define_sources h
  have hagree : ∀ v ∈ r.variants,
      v.condition.formula.items = Condition.tokenItems v.condition.source ∧
        Reference.paths v.condition.source = Condition.tokenItems v.condition.source := by
    intro v hv
    have hin := List.mem_map_of_mem (f := fun v => v.condition.source) hv
    rw [hsources] at hin
    obtain ⟨x, hx, he⟩ := List.mem_map.mp hin
    exact Condition.parse_tokenItems (hdefined.parsed v hv) (he ▸ hp x hx)
  refine ⟨hsources, ?_, fun v hv => (hagree v hv).1, ?_⟩
  · have hfound : read.flatMap (·.2) =
        (sections definition.members).flatMap fun x => Condition.tokenItems x.1 := by
      calc read.flatMap (·.2)
          = read.flatMap fun x => Condition.tokenItems x.1.condition.source := by
            apply List.flatMap_congr
            intro x hx
            rw [(hread x hx).1]
            exact (hagree x.1 (hvariants ▸ List.mem_map_of_mem hx)).2
        _ = (r.variants.map fun v => v.condition.source).flatMap Condition.tokenItems := by
            rw [hvariants, List.flatMap_map, List.flatMap_map]
        _ = _ := by rw [hsources, List.flatMap_map]
    rw [hreferences, hfound, Path.eraseDupsBy_eq_firsts]
  · intro p hpr hown
    apply hdefined.foreign
    rw [path, hname]
    exact ⟨p, hpr, hown⟩

/-- Two spellings of one item, a closing brace in a text, an opening one and a quote in an item. -/
def respelled : Json :=
  .object (Ruleset.withDefault 1 ++
    [("{mode} == \"\x7d\" or \x7ba\x7b'b\x7d > 1", .object [("default", (Scalar.int 5).toJson)]),
      ("{level} < 2 and {/mode} in ('c', \"d\")", .object [("default", (Scalar.int 9).toJson)])])

theorem references_eq_firsts_respelled : ∃ r, define "limit" respelled = .ok r ∧
    (∀ x ∈ sections respelled.members, Condition.Plain x.1) ∧
    r.references = [⟨"mode"⟩, ⟨"a\x7b'b"⟩, ⟨"level"⟩] := by
  obtain ⟨r, hr, _⟩ : ∃ r, define "limit" respelled = .ok r ∧ r.name = "limit" :=
    exists_ok (by decide +kernel)
  have hplain : ∀ x ∈ sections respelled.members, Condition.Plain x.1 := by
    decide +kernel
  obtain ⟨_, hreferences, _⟩ := references_eq_firsts hr hplain
  exact ⟨r, hr, hplain, hreferences.trans (by decide +kernel)⟩

end Rule

end ConfigRules
