import ConfigRules.Proofs.Condition.Parser
import ConfigRules.Proofs.Ruleset

/-!
Whether the order of a rule set covers what conditions read. It covers what rules refer to; that is
all they read where their conditions are plain, but not in general.
-/

namespace ConfigRules

/-- No text in quotes holds an opening brace and no item runs over the end of a line. -/
def Condition.Plain (source : String) : Prop :=
  ∀ tokens, Token.all source = .ok tokens → ∀ t ∈ tokens, t.lexeme.Plain

/-- The references in a plain source are the items of its formula, in the same order. -/
theorem Condition.parse_paths {source : String} {x : Condition}
    (h : Condition.parse source = .ok x) (hp : Plain source) :
    Reference.paths source = x.formula.items := by
  obtain ⟨f, hf, hx⟩ := bind_ok.mp h
  obtain rfl := pure_ok.mp hx
  obtain ⟨tokens, htokens, hparse⟩ := Formula.parse_ok.mp hf
  rw [Token.all_paths htokens (hp tokens htokens)]
  exact (Parser.parse_items hparse).symm

/-- A rule with plain conditions refers to all that they read. -/
theorem Rule.Defined.refersTo_reads {r : Rule} (h : r.Defined)
    (hp : ∀ v ∈ r.variants, Condition.Plain v.condition.source) : ∀ p ∈ r.reads, r.RefersTo p := by
  intro p hpr
  obtain ⟨v, hv, hpv⟩ := List.mem_flatMap.mp hpr
  apply h.scanned v hv
  rw [Condition.parse_paths (h.parsed v hv) (hp v hv)]
  exact Condition.mem_items.mp hpv

namespace Ruleset

variable {definitions : List (String × Json)} {s : Ruleset} {name : String} {definition : Json}
  {rules : List Rule} {q r : Rule}

theorem mem_rules (h : ofDefinitions definitions = .ok s) (hd : (name, definition) ∈ definitions)
    (hr : Rule.define name definition = .ok r) : r ∈ s.rules := by
  obtain ⟨rules, hrules, hs⟩ := ofDefinitions_ok.mp h
  rw [(ofRules_ok.mp hs).2.1]
  obtain ⟨x, hx, hdefine⟩ := exists_of_forall₂ (List.Forall₂.flip hrules) hd
  have he : x = r := Except.ok.inj (hdefine.symm.trans hr)
  exact he ▸ hx

/-- An integer that must not be there. -/
def forbidden : Json := .object [("exists", .bool false), ("type", .string "int")]

theorem define_forbidden (name : String) :
    Rule.define name forbidden = .ok ⟨name, ⟨false, .int, none, none⟩, [], []⟩ := rfl

/-- Rules that do not refer to one another make a rule set. -/
theorem exists_ofRules (hd : Distinct rules) (h : ∀ q ∈ rules, ∀ r ∈ rules, ¬ r.RefersTo q.path) :
    ∃ s, ofRules rules = .ok s := by
  refine exists_ofRules_iff.mpr ⟨hd, fun _ => 0, ?_⟩
  intro q hq r hr hrefers
  exact absurd hrefers (h q hq r hr)

theorem edges_eq_nil (hd : Distinct rules) (h : ∀ q ∈ rules, ∀ r ∈ rules, ¬ r.RefersTo q.path) :
    edges rules = [] := by
  apply List.eq_nil_iff_forall_not_mem.mpr
  intro e he
  obtain ⟨q, r, hq, hr, hrefers⟩ := (mem_edges hd).mp he
  exact h q (List.mem_of_getElem? hq) r (List.mem_of_getElem? hr) hrefers

/-- Two rules that do not refer to each other apply as they are defined. -/
theorem ordered_pair (h : ofRules [q, r] = .ok s)
    (hnone : edges [q, r] = []) : s.ordered = [q, r] := by
  obtain ⟨_, hrules, horder⟩ := ofRules_ok.mp h
  have hprecedence : precedence [q, r] = ⟨2, []⟩ := by
    unfold precedence
    rw [hnone]
    rfl
  rw [hprecedence] at horder
  have hindices : s.order = [0, 1] := (Except.ok.inj horder).symm
  unfold ordered
  rw [hrules, hindices]
  rfl

/-- A rule that does not refer to something its conditions read has its place before the rule for
that item in some rule set, or is for that item itself. -/
theorem exists_uncovered (hr : Rule.define name definition = .ok r) {p : Path}
    (hp : ¬ r.RefersTo p) : ∃ definitions s, ofDefinitions definitions = .ok s ∧
      (name, definition) ∈ definitions ∧ ∃ q ∈ s.rules, q.path.SameItem p ∧
        (q = r ∨ s.ordered = [r, q]) := by
  have hforeign := (Rule.define_defined hr).foreign
  by_cases hown : r.path.SameItem p
  · have hnone : ∀ x ∈ [r], ∀ y ∈ [r], ¬ y.RefersTo x.path := by
      intro x hx y hy
      rw [List.mem_singleton.mp hx, List.mem_singleton.mp hy]
      exact hforeign
    obtain ⟨s, hs⟩ := exists_ofRules (List.pairwise_singleton _ _) hnone
    refine ⟨[(name, definition)], s, ofDefinitions_ok.mpr ⟨[r], .cons hr .nil, hs⟩, by simp, r, ?_,
      hown, .inl rfl⟩
    rw [(ofRules_ok.mp hs).2.1]
    exact List.mem_singleton_self r
  · have hq := define_forbidden p.text
    generalize hfree : Rule.mk p.text ⟨false, .int, none, none⟩ [] [] = q at hq
    have hpath : q.path = p := by rw [← hfree]; rfl
    have hnothing : ∀ x, ¬ q.RefersTo x := by
      intro x hx
      obtain ⟨d, hd, _⟩ := hx
      rw [← hfree] at hd
      cases hd
    have hnone : ∀ x ∈ [r, q], ∀ y ∈ [r, q], ¬ y.RefersTo x.path := by
      intro x hx y hy
      rcases List.mem_pair.mp hy with rfl | rfl
      · rcases List.mem_pair.mp hx with rfl | rfl
        · exact hforeign
        · rwa [hpath]
      · exact hnothing _
    have hd : Distinct [r, q] := List.pairwise_pair.mpr (hpath ▸ hown)
    obtain ⟨s, hs⟩ := exists_ofRules hd hnone
    refine ⟨[(name, definition), (p.text, forbidden)], s,
      ofDefinitions_ok.mpr ⟨[r, q], .cons hr (.cons hq .nil), hs⟩, by simp, q, ?_, hpath ▸ rfl,
      .inr (ordered_pair hs (edges_eq_nil hd hnone))⟩
    rw [(ofRules_ok.mp hs).2.1]
    simp

/-- The order covers what a rule reads, in every rule set that has the rule, exactly when the rule
refers to all of it; and rules with plain conditions do. -/
theorem reads_covered_iff (hr : Rule.define name definition = .ok r) :
    ((∀ definitions s, ofDefinitions definitions = .ok s → (name, definition) ∈ definitions →
      ∀ p ∈ r.reads, ∀ q ∈ s.rules, q.path.SameItem p → q ≠ r ∧ [q, r].Sublist s.ordered) ↔
        ∀ p ∈ r.reads, r.RefersTo p) ∧
      ((∀ v ∈ r.variants, Condition.Plain v.condition.source) → ∀ p ∈ r.reads, r.RefersTo p) := by
  have hdefined := Rule.define_defined hr
  refine ⟨⟨?_, ?_⟩, hdefined.refersTo_reads⟩
  · intro hcovered p hp
    by_contra hnot
    obtain ⟨definitions, s, hs, hin, q, hq, hsame, hplace⟩ := exists_uncovered hr hnot
    obtain ⟨hne, hbefore⟩ := hcovered definitions s hs hin p hp q hq hsame
    rcases hplace with he | he
    · exact hne he
    · rw [he] at hbefore
      exact hne (List.cons.inj (hbefore.eq_of_length rfl)).1
  · intro hknown definitions s hs hin p hp q hq hsame
    obtain ⟨hperm, ha⟩ := accepted hs
    have hrefers : r.RefersTo q.path := (hknown p hp).congr hsame.symm
    have hr' : r ∈ s.rules := mem_rules hs hin hr
    refine ⟨?_, ha.before (hperm.mem_iff.mpr hq) (hperm.mem_iff.mpr hr') hrefers⟩
    rintro rfl
    exact hdefined.foreign hrefers

theorem reads_covered_limit : ∃ r, Rule.define "limit" limit = .ok r ∧ r.reads ≠ [] ∧
    ∀ definitions s, ofDefinitions definitions = .ok s → ("limit", limit) ∈ definitions →
      ∀ p ∈ r.reads, ∀ q ∈ s.rules, q.path.SameItem p → q ≠ r ∧ [q, r].Sublist s.ordered := by
  obtain ⟨r, hr, hreads, hknown⟩ : ∃ r, Rule.define "limit" limit = .ok r ∧ r.reads ≠ [] ∧
      ∀ p ∈ r.reads, r.RefersTo p := exists_ok (by decide +kernel)
  exact ⟨r, hr, hreads, (reads_covered_iff hr).1.mpr hknown⟩

/-- A limit that depends on a mode and a level, where the mode is compared with an opening brace. -/
def limitByBrace : List (String × Json) :=
  [("mode", .object [("exists", .bool true), ("type", .string "str"), ("default", .string "x")]),
    ("limit", .object (withDefault 1 ++
      [("{mode} == \"\x7b\" or {level} > 3",
        .object [("default", (Scalar.int 9).toJson)])])),
    ("level", .object (withDefault 2))]

/-- The text in quotes hides the level, so the limit comes before it. -/
theorem reads_uncovered_limitByBrace : ∃ s, ofDefinitions limitByBrace = .ok s ∧
    ∃ r ∈ s.rules, ∃ p ∈ r.reads, ∃ q ∈ s.rules, q.path.SameItem p ∧
      ¬ (q ≠ r ∧ [q, r].Sublist s.ordered) := by
  obtain ⟨s, hs, horder, r, hr, hlimit, p, hp, q, hq, hlevel, hsame⟩ :
      ∃ s, ofDefinitions limitByBrace = .ok s ∧
        s.ordered.map Rule.name = ["mode", "limit", "level"] ∧
        ∃ r ∈ s.rules, r.name = "limit" ∧ ∃ p ∈ r.reads, ∃ q ∈ s.rules,
          q.name = "level" ∧ q.path.SameItem p := exists_ok (by decide +kernel)
  refine ⟨s, hs, r, hr, p, hp, q, hq, hsame, ?_⟩
  intro hcovered
  have hnames := hcovered.2.map Rule.name
  rw [horder, List.map_cons, List.map_cons, hlevel, hlimit] at hnames
  exact absurd hnames (by decide)

end Ruleset

end ConfigRules
