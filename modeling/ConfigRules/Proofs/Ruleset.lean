import ConfigRules.Proofs.Precedence
import ConfigRules.Proofs.Rule
import ConfigRules.Ruleset

/-!
Which rules make a rule set, and in which order they apply. Rules are accepted when no two are for
the same item and their references are stratified; the order then holds every rule once, and no rule
refers to the item of one behind it.
-/

namespace ConfigRules

/-- No two rules are for the same item. -/
def Distinct (rules : List Rule) : Prop := rules.Pairwise fun q r => ¬ q.path.SameItem r.path

/-- A rank goes up from every rule to those that refer to its item. -/
def Stratified (rules : List Rule) : Prop :=
  ∃ rank : Rule → Nat, ∀ q ∈ rules, ∀ r ∈ rules, r.RefersTo q.path → rank q < rank r

/-- Rules in an order in which each comes after those for the items that it refers to. -/
structure Arranged (rules : List Rule) : Prop where
  defined : ∀ r ∈ rules, r.Defined
  distinct : Distinct rules
  forward : rules.Pairwise fun q r => ¬ q.RefersTo r.path

theorem Arranged.tail {r : Rule} {rest : List Rule} (h : Arranged (r :: rest)) : Arranged rest :=
  ⟨fun q hq => h.defined q (List.mem_cons_of_mem _ hq), h.distinct.tail, h.forward.tail⟩

/-- A rule comes after the one for an item that it refers to. -/
theorem Arranged.before {rules : List Rule} (h : Arranged rules) {q r : Rule} (hq : q ∈ rules)
    (hr : r ∈ rules) (hrefers : r.RefersTo q.path) : [q, r].Sublist rules := by
  induction rules with
  | nil => cases hq
  | cons x rest ih =>
    rcases List.mem_cons.mp hq with rfl | hq'
    · rcases List.mem_cons.mp hr with rfl | hr'
      · exact absurd hrefers (h.defined r List.mem_cons_self).foreign
      · exact (List.singleton_sublist.mpr hr').cons_cons q
    · rcases List.mem_cons.mp hr with rfl | hr'
      · exact absurd hrefers ((List.pairwise_cons.mp h.forward).1 q hq')
      · exact (ih h.tail hq' hr').cons x

theorem Distinct.perm {rules others : List Rule} (h : Distinct rules) (hp : rules.Perm others) :
    Distinct others := List.Pairwise.perm h hp fun hn hs => hn hs.symm

/-- Rules for different items have different names. -/
theorem Distinct.eq_of_name {rules : List Rule} (h : Distinct rules) {q r : Rule} (hq : q ∈ rules)
    (hr : r ∈ rules) (hn : q.name = r.name) : q = r := by
  have hnames : ∀ x y : Rule, ¬ x.path.SameItem y.path → x.name ≠ y.name := by
    intro x y hxy he
    exact hxy (by rw [Rule.path, he]; rfl)
  exact List.Pairwise.forall_of_forall_of_flip (R := fun x y : Rule => x.name = y.name → x = y)
    (fun _ _ _ => rfl) (h.imp fun hxy he => absurd he (hnames _ _ hxy))
    (h.imp fun hxy he => absurd he.symm (hnames _ _ hxy)) hq hr hn

theorem Stratified.perm {rules others : List Rule} (h : Stratified rules)
    (hp : rules.Perm others) : Stratified others := by
  obtain ⟨rank, hr⟩ := h
  exact ⟨rank, fun q hq r hr' => hr q (hp.mem_iff.mpr hq) r (hp.mem_iff.mpr hr')⟩

namespace Ruleset

variable {rules : List Rule}

theorem duplicate?_eq_none {seen : List Rule} : duplicate? seen rules = none ↔
    Distinct rules ∧ ∀ q ∈ seen, ∀ r ∈ rules, ¬ q.path.SameItem r.path := by
  induction rules generalizing seen with
  | nil => simp [duplicate?, Distinct]
  | cons r rest ih =>
    unfold duplicate? Distinct
    rw [List.pairwise_cons]
    split
    · rename_i q hq
      have hs : q.path.SameItem r.path := by simpa using List.find?_some hq
      constructor
      · intro h
        cases h
      · intro h
        exact absurd hs (h.2 q (List.mem_of_find?_eq_some hq) r List.mem_cons_self)
    · rename_i hn
      have hn : ∀ q ∈ seen, ¬ q.path.SameItem r.path := by simpa using hn
      rw [ih]
      constructor
      · intro h
        obtain ⟨hd, hs⟩ := h
        refine ⟨⟨fun q hq => hs r (by simp) q hq, hd⟩, ?_⟩
        intro q hq s hs'
        rcases List.mem_cons.mp hs' with rfl | hs'
        · exact hn q hq
        · exact hs q (by simp [hq]) s hs'
      · intro h
        obtain ⟨⟨hr, hd⟩, hs⟩ := h
        refine ⟨hd, ?_⟩
        intro q hq s hs'
        rcases List.mem_append.mp hq with hq | hq
        · exact hs q hq s (List.mem_cons_of_mem _ hs')
        · rw [List.mem_singleton.mp hq]
          exact hr s hs'

theorem indexOf?_eq_some (hd : Distinct rules) {item : Path} {j : Nat} :
    indexOf? rules item = some j ↔ ∃ q, rules[j]? = some q ∧ q.path.SameItem item := by
  unfold indexOf?
  rw [List.findIdx?_eq_some_iff_getElem]
  simp only [decide_eq_true_eq]
  constructor
  · intro h
    obtain ⟨hj, hs, _⟩ := h
    exact ⟨rules[j], List.getElem?_eq_getElem hj, hs⟩
  · intro h
    obtain ⟨q, hq, hs⟩ := h
    obtain ⟨hj, rfl⟩ := List.getElem?_eq_some_iff.mp hq
    refine ⟨hj, hs, ?_⟩
    intro i hi hsame
    exact List.pairwise_iff_getElem.mp hd i j (by omega) hj hi (hsame.trans hs.symm)

/-- The edges are the pairs of a rule and one that refers to its item. -/
theorem mem_edges (hd : Distinct rules) {i j : Nat} : (j, i) ∈ edges rules ↔
    ∃ q r, rules[j]? = some q ∧ rules[i]? = some r ∧ r.RefersTo q.path := by
  simp only [edges, List.mem_flatMap, List.mem_map, List.mem_filterMap, Prod.exists,
    List.mk_mem_zipIdx_iff_getElem?, indexOf?_eq_some hd, Prod.mk.injEq]
  constructor
  · intro h
    obtain ⟨r, k, hr, l, ⟨d, hd, q, hq, hs⟩, rfl, rfl⟩ := h
    exact ⟨q, r, hq, hr, d, hd, hs.symm⟩
  · intro h
    obtain ⟨q, r, hq, hr, d, hd, hs⟩ := h
    exact ⟨r, i, hr, j, ⟨d, hd, q, hq, hs.symm⟩, rfl, rfl⟩

theorem precedence_bounded (hd : Distinct rules) : (precedence rules).Bounded := by
  intro e he
  obtain ⟨q, r, hq, hr, _⟩ := (mem_edges hd).mp he
  exact ⟨(List.getElem?_eq_some_iff.mp hq).1, (List.getElem?_eq_some_iff.mp hr).1⟩

/-- The index of a rule among those as they are defined. -/
def position (rules : List Rule) (r : Rule) : Nat := (indexOf? rules r.path).getD 0

theorem edge_of_refersTo (hd : Distinct rules) {q r : Rule} (hq : q ∈ rules) (hr : r ∈ rules)
    (h : r.RefersTo q.path) : (position rules q, position rules r) ∈ edges rules := by
  obtain ⟨j, hj⟩ := List.mem_iff_getElem?.mp hq
  obtain ⟨i, hi⟩ := List.mem_iff_getElem?.mp hr
  have hqj : indexOf? rules q.path = some j := (indexOf?_eq_some hd).mpr ⟨q, hj, rfl⟩
  have hri : indexOf? rules r.path = some i := (indexOf?_eq_some hd).mpr ⟨r, hi, rfl⟩
  unfold position
  rw [hqj, hri]
  exact (mem_edges hd).mpr ⟨q, r, hj, hi, h⟩

/-- References are stratified exactly when their indices can be put in order. -/
theorem stratified_iff (hd : Distinct rules) :
    Stratified rules ↔ ∃ rank, (precedence rules).Ranked rank := by
  constructor
  · intro h
    obtain ⟨rank, hr⟩ := h
    refine ⟨fun i => (rules[i]?.map rank).getD 0, ?_⟩
    intro e he
    obtain ⟨q, r, hq, hr', hrefers⟩ := (mem_edges hd).mp he
    simpa [hq, hr'] using
      hr q (List.mem_of_getElem? hq) r (List.mem_of_getElem? hr') hrefers
  · intro h
    obtain ⟨rank, hr⟩ := h
    refine ⟨fun r => rank (position rules r), ?_⟩
    intro q hq r hr' hrefers
    exact hr _ (edge_of_refersTo hd hq hr' hrefers)

theorem ofRules_ok {s : Ruleset} : ofRules rules = .ok s ↔
    Distinct rules ∧ s.rules = rules ∧ (precedence rules).order = .ok s.order := by
  unfold ofRules
  split
  · rename_i r q hdup
    constructor
    · intro h
      cases h
    · intro h
      rw [duplicate?_eq_none.mpr ⟨h.1, by simp⟩] at hdup
      cases hdup
  · rename_i hdup
    have hd := (duplicate?_eq_none.mp hdup).1
    split
    · rename_i order ho
      rw [ho]
      constructor
      · intro h
        cases h
        exact ⟨hd, rfl, rfl⟩
      · intro h
        obtain ⟨_, hr, ho⟩ := h
        cases ho
        rw [← hr]
    · rename_i cycle hc
      rw [hc]
      exact ⟨fun h => (nomatch h), fun h => (nomatch h.2.2)⟩

/-- Rules make a rule set when no two are for one item and their references are stratified. -/
theorem exists_ofRules_iff : (∃ s, ofRules rules = .ok s) ↔ Distinct rules ∧ Stratified rules := by
  constructor
  · intro h
    obtain ⟨s, hs⟩ := h
    obtain ⟨hd, _, ho⟩ := ofRules_ok.mp hs
    refine ⟨hd, (stratified_iff hd).mpr ?_⟩
    exact (Precedence.sorted_length_iff (precedence_bounded hd)).mp (Precedence.order_ok.mp ho).2
  · intro h
    obtain ⟨hd, hs⟩ := h
    have hl := (Precedence.sorted_length_iff (precedence_bounded hd)).mpr
      ((stratified_iff hd).mp hs)
    exact ⟨⟨rules, _⟩, ofRules_ok.mpr ⟨hd, rfl, Precedence.order_ok.mpr ⟨rfl, hl⟩⟩⟩

theorem pick_range (rules : List Rule) : pick rules (List.range rules.length) = rules := by
  have hr : List.range rules.length = rules.zipIdx.map Prod.snd := by
    simp [List.range_eq_range']
  have hx : ∀ x ∈ rules.zipIdx, rules[x.2]? = some x.1 := by
    intro x hx
    exact List.mk_mem_zipIdx_iff_getElem?.mp hx
  unfold pick
  rw [hr, List.filterMap_map, List.filterMap_congr (g := fun x => some x.1) hx,
    List.filterMap_eq_map']
  simp

/-- The order holds every rule once. -/
theorem ordered_perm {s : Ruleset} (h : ofRules rules = .ok s) : s.ordered.Perm rules := by
  obtain ⟨_, hr, ho⟩ := ofRules_ok.mp h
  obtain ⟨ho, hl⟩ := Precedence.order_ok.mp ho
  have hp := (Precedence.sorted_built (precedence rules)).perm_range hl
  have hpick := hp.filterMap fun i => rules[i]?
  unfold ordered
  rw [hr, ho]
  exact hpick.trans (.of_eq (pick_range rules))

/-- No rule refers to the item of a rule behind it. -/
theorem ordered_forward {s : Ruleset} (h : ofRules rules = .ok s) :
    s.ordered.Pairwise fun q r => ¬ q.RefersTo r.path := by
  obtain ⟨hd, hr, ho⟩ := ofRules_ok.mp h
  obtain ⟨ho, _⟩ := Precedence.order_ok.mp ho
  unfold ordered pick
  rw [hr, ho, List.pairwise_filterMap]
  apply (Precedence.sorted_built (precedence rules)).arranged.imp
  intro i j hij q hq r hr' hrefers
  exact hij ((mem_edges hd).mpr ⟨r, q, hr', hq, hrefers⟩)

/-- The definitions that a rule set comes from make its rules, one by one. -/
theorem ofDefinitions_ok {definitions : List (String × Json)} {s : Ruleset} :
    ofDefinitions definitions = .ok s ↔ ∃ rules,
      List.Forall₂ (fun d r => Rule.define d.1 d.2 = .ok r) definitions rules ∧
        ofRules rules = .ok s := by
  unfold ofDefinitions
  simp only [bind_ok, mapM_ok]

theorem rules_defined {definitions : List (String × Json)} {rules : List Rule}
    (h : List.Forall₂ (fun d r => Rule.define d.1 d.2 = .ok r) definitions rules) :
    ∀ r ∈ rules, r.Defined := by
  intro r hr
  obtain ⟨_, _, hd⟩ := exists_of_forall₂ h hr
  exact Rule.define_defined hd

/-- Rules are named as they were defined. -/
theorem rules_names {definitions : List (String × Json)} {s : Ruleset}
    (h : ofDefinitions definitions = .ok s) :
    s.rules.map Rule.name = definitions.map Prod.fst := by
  obtain ⟨rules, hrules, hs⟩ := ofDefinitions_ok.mp h
  rw [(ofRules_ok.mp hs).2.1]
  clear h hs
  induction hrules with
  | nil => rfl
  | cons hr _ ih => rw [List.map_cons, List.map_cons, (Rule.define_ok hr).1, ih]

/-- An accepted rule set applies all its rules, each after those for the items that it refers to. -/
theorem accepted {definitions : List (String × Json)} {s : Ruleset}
    (h : ofDefinitions definitions = .ok s) : s.ordered.Perm s.rules ∧ Arranged s.ordered := by
  obtain ⟨rules, hrules, hs⟩ := ofDefinitions_ok.mp h
  obtain ⟨hd, hr, _⟩ := ofRules_ok.mp hs
  have hp := ordered_perm hs
  refine ⟨hr ▸ hp, ?_, hd.perm hp.symm, ordered_forward hs⟩
  exact fun r hr' => rules_defined hrules r (hp.mem_iff.mp hr')

/-- An integer that must be there, with a default. -/
def withDefault (n : Int64) : List (String × Json) :=
  [("exists", .bool true), ("type", .string "int"), ("default", (Scalar.int n).toJson)]

/-- A limit that is higher above a certain level. -/
def limit : Json :=
  .object (withDefault 5 ++
    [("{/app/level} > 3", .object [("default", (Scalar.int 20).toJson)])])

/-- The limit before the level that it depends on. -/
def limitByLevel : List (String × Json) :=
  [("limit", limit), ("/app/level", .object (withDefault 4))]

end Ruleset

end ConfigRules
