import ConfigRules.Proofs.Alike
import ConfigRules.Proofs.Separate
import ConfigRules.Proofs.Trace

/-!
Rule sets whose definitions come in another order. Where rules are separate, each of them finds the
same in the items that it looks at, in whichever order the rules apply; so a pass through all of
them comes to the same resolutions, and to the same configuration up to the order of its keys.
-/

namespace ConfigRules

variable {r : Rule} {rules others rest : List Rule} {c d : Config} {outcomes : Rule → Outcome}

namespace Outcome

theorem store_alike (o : Outcome) (p : Path) (h : Json.Alike (.object c) (.object d)) :
    Json.Alike (.object (o.store p c)) (.object (o.store p d)) := by
  cases o with
  | written v => exact Path.alike_set h v
  | _ => exact h

theorem store_store_alike (o w : Outcome) {p q : Path} (h : Apart p.segments q.segments)
    (c : Config) :
    Json.Alike (.object (o.store p (w.store q c))) (.object (w.store q (o.store p c))) := by
  cases o with
  | written v =>
    cases w with
    | written x => exact Path.alike_set_set h v x c
    | _ => exact .refl _
  | _ => exact .refl _

end Outcome

/-- Stores what each of some rules has come to. -/
def settle (outcomes : Rule → Outcome) (rules : List Rule) (c : Config) : Config :=
  rules.foldl (fun d r => (outcomes r).store r.path d) c

theorem settle_alike (outcomes : Rule → Outcome) (rules : List Rule)
    (h : Json.Alike (.object c) (.object d)) :
    Json.Alike (.object (settle outcomes rules c)) (.object (settle outcomes rules d)) := by
  induction rules generalizing c d with
  | nil => exact h
  | cons r rest ih => exact ih ((outcomes r).store_alike r.path h)

theorem settle_congr {f g : Rule → Outcome} (h : ∀ r ∈ rules, f r = g r) :
    settle f rules c = settle g rules c :=
  List.foldl_ext _ _ _ fun d r hr => congrArg (Outcome.store r.path d) (h r hr)

/-- Outcomes of rules whose items are apart can be stored in any order. -/
theorem settle_perm (h : rules.Perm others)
    (ha : rules.Pairwise fun q r => Apart q.path.segments r.path.segments) (c : Config) :
    Json.Alike (.object (settle outcomes rules c)) (.object (settle outcomes others c)) := by
  induction h generalizing c with
  | nil => exact .refl _
  | cons r _ ih => exact ih (List.pairwise_cons.mp ha).2 _
  | swap q r rest =>
    have hapart := (List.pairwise_cons.mp ha).1 q List.mem_cons_self
    exact settle_alike outcomes rest (Outcome.store_store_alike _ _ hapart.symm c)
  | trans h _ ih ih' => exact (ih ha c).trans (ih' (ha.perm h Apart.symm) c)

theorem Separate.apart (hs : Separate rules) (hd : Distinct rules) :
    rules.Pairwise fun q r => Apart q.path.segments r.path.segments := by
  apply hd.imp_of_mem
  intro q r hq hr hn
  exact ⟨fun hl => hs.rules_apart q hq r hr ⟨hl, hn⟩,
    fun hl => hs.rules_apart r hr q hq ⟨hl, fun he => hn he.symm⟩⟩

/-- What a rule goes by when its turn comes: a configuration that shows its conditions what the pass
leaves, and that holds at the rule's item what the pass has begun with. -/
theorem Separate.meets (ha : Arranged rules) (hs : Separate rules) : ∀ r ∈ rules, ∃ d,
    Agree r.reads d (pass .collectAll rules c).2 ∧ r.path.get? d = r.path.get? c ∧
      r.resolve (pass .collectAll rules c).2 = r.resolve d ∧
      r.path.get? (pass .collectAll rules c).2 = (r.resolve d).outcome.leaves (r.path.get? c) := by
  induction rules generalizing c with
  | nil => exact fun _ hr => nomatch hr
  | cons q rest ih =>
    rw [pass_go (collectAll_goes _)]
    intro r hr
    rcases List.mem_cons.mp hr with rfl | hr
    · exact ⟨c, fun p hp => (hs.reads_final ha p hp).symm, rfl, hs.resolve_final ha,
        hs.own_final ha⟩
    · have hnot : ¬ r.path.LeadsTo q.path := by
        intro hl
        have hdistinct := (List.pairwise_cons.mp ha.distinct).1 r hr
        exact hs.rules_apart r (List.mem_cons_of_mem _ hr) q List.mem_cons_self
          ⟨hl, fun he => hdistinct he.symm⟩
      obtain ⟨d, hreads, hown, hresolve, hleft⟩ := ih ha.tail hs.tail (c := q.apply c) r hr
      rw [Rule.get?_apply hnot] at hown hleft
      exact ⟨d, hreads, hown, hresolve, hleft⟩

/-- A pass through all rules tells of each what it comes to on the configuration that is left. -/
theorem Separate.report_eq (ha : Arranged rules) (hs : Separate rules) :
    (pass .collectAll rules c).1 =
      rules.map fun r => r.resolve (pass .collectAll rules c).2 := by
  induction rules generalizing c with
  | nil => rfl
  | cons r rest ih =>
    rw [pass_go (collectAll_goes _)]
    exact List.cons_eq_cons.mpr ⟨(hs.resolve_final ha).symm, ih ha.tail hs.tail⟩

/-- The configuration that is left is the one that those outcomes make. -/
theorem Separate.config_eq (ha : Arranged rules) (hs : Separate rules) :
    (pass .collectAll rules c).2 =
      settle (fun r => (r.resolve (pass .collectAll rules c).2).outcome) rules c := by
  induction rules generalizing c with
  | nil => rfl
  | cons r rest ih =>
    rw [pass_go (collectAll_goes _)]
    have hrest := ih ha.tail hs.tail (c := r.apply c)
    have hfinal : r.resolve (pass .collectAll rest (r.apply c)).2 = r.resolve c :=
      hs.resolve_final ha
    simp only [settle, List.foldl_cons, hfinal]
    exact hrest

section

variable (ha : Arranged rules) (hb : Arranged others) (hs : Separate rules)
  (hp : rules.Perm others)

include ha hb hs hp

/-- An item that a condition reads ends up with the same value in both orders, if the rules that the
condition's own rule refers to come to the same. -/
theorem get?_pass_perm {p : Path} (hr : r ∈ rules) (hpr : p ∈ r.reads)
    (h : ∀ q ∈ rules, r.RefersTo q.path → q.resolve (pass .collectAll rules c).2 =
      q.resolve (pass .collectAll others c).2) :
    p.get? (pass .collectAll rules c).2 = p.get? (pass .collectAll others c).2 := by
  by_cases hgoverned : ∃ q ∈ rules, p.SameItem q.path
  · obtain ⟨q, hq, hsame⟩ := hgoverned
    have hresolve := h q hq ((hs.reads_known r hr p hpr).congr hsame)
    obtain ⟨d, _, _, hd, hleft⟩ := hs.meets ha (c := c) q hq
    obtain ⟨e, _, _, he, hleft'⟩ :=
      (hs.perm hp).meets hb (c := c) q (hp.mem_iff.mp hq)
    rw [Path.get?_congr hsame, Path.get?_congr hsame, hleft, hleft', ← hd, ← he, hresolve]
  · have hfree : ∀ q ∈ rules, ¬ p.LeadsTo q.path := by
      intro q hq hl
      exact hs.reads_apart r hr p hpr q hq ⟨hl, fun he => hgoverned ⟨q, hq, he⟩⟩
    rw [get?_pass hfree, get?_pass fun q hq => hfree q (hp.mem_iff.mpr hq)]

variable (hrank : Stratified rules)

include hrank

/-- Every rule comes to the same in both orders. The induction goes up the ranks of the rules, since
what a rule finds depends on those that it refers to. -/
theorem resolve_pass_perm : ∀ r ∈ rules,
    r.resolve (pass .collectAll rules c).2 = r.resolve (pass .collectAll others c).2 := by
  obtain ⟨rank, hrank⟩ := hrank
  have hall : ∀ n, ∀ r ∈ rules, rank r = n →
      r.resolve (pass .collectAll rules c).2 = r.resolve (pass .collectAll others c).2 := by
    intro n
    induction n using Nat.strongRecOn with
    | ind n ih =>
      intro r hr hn
      subst hn
      obtain ⟨d, hreads, hown, hd, _⟩ := hs.meets ha (c := c) r hr
      obtain ⟨e, hreads', hown', he, _⟩ :=
        (hs.perm hp).meets hb (c := c) r (hp.mem_iff.mp hr)
      rw [hd, he]
      apply Rule.resolve_congr
      · apply Rule.select_congr
        intro p hpr
        have hlower : ∀ q ∈ rules, r.RefersTo q.path → q.resolve (pass .collectAll rules c).2 =
            q.resolve (pass .collectAll others c).2 :=
          fun q hq hrefers => ih (rank q) (hrank q hq r hr hrefers) q hq rfl
        rw [hreads p hpr, hreads' p hpr, get?_pass_perm ha hb hs hp hr hpr hlower]
      · rw [hown, hown']
  exact fun r hr => hall (rank r) r hr rfl

theorem report_perm : (pass .collectAll rules c).1.Perm (pass .collectAll others c).1 := by
  rw [hs.report_eq ha, (hs.perm hp).report_eq hb,
    List.map_congr_left (resolve_pass_perm ha hb hs hp hrank)]
  exact hp.map _

theorem config_alike : Json.Alike (.object (pass .collectAll rules c).2)
    (.object (pass .collectAll others c).2) := by
  have hsame : ∀ r ∈ rules, (r.resolve (pass .collectAll rules c).2).outcome =
      (r.resolve (pass .collectAll others c).2).outcome :=
    fun r hr => congrArg Resolution.outcome (resolve_pass_perm ha hb hs hp hrank r hr)
  have hrules := (hs.config_eq ha (c := c)).trans (settle_congr hsame)
  have hothers := (hs.perm hp).config_eq hb (c := c)
  rw [hrules]
  exact (settle_perm hp (hs.apart ha.distinct) c).trans (hothers ▸ .refl _)

/-- What the reports of both orders say of a rule is the same. -/
theorem resolution_eq {x y : Resolution} (hx : x ∈ (pass .collectAll rules c).1)
    (hy : y ∈ (pass .collectAll others c).1) (hn : x.rule = y.rule) : x = y := by
  rw [hs.report_eq ha] at hx
  rw [(hs.perm hp).report_eq hb] at hy
  obtain ⟨q, hq, rfl⟩ := List.mem_map.mp hx
  obtain ⟨r, hr, rfl⟩ := List.mem_map.mp hy
  rw [q.resolve_rule, r.resolve_rule] at hn
  obtain rfl : q = r := ha.distinct.eq_of_name hq (hp.mem_iff.mpr hr) hn
  exact resolve_pass_perm ha hb hs hp hrank q hq

end

namespace Ruleset

variable {definitions permuted : List (String × Json)} {s t : Ruleset}

/-- Definitions in another order make the same rules, in that order. -/
theorem define_perm (hp : definitions.Perm permuted)
    (h : List.Forall₂ (fun d r => Rule.define d.1 d.2 = .ok r) definitions rules) :
    ∃ others, List.Forall₂ (fun d r => Rule.define d.1 d.2 = .ok r) permuted others ∧
      rules.Perm others := by
  obtain ⟨others, hothers, hperm⟩ := List.perm_comp_forall₂ hp.symm h
  exact ⟨others, hothers, hperm.symm⟩

theorem accepts_perm (hp : definitions.Perm permuted) (h : ∃ s, ofDefinitions definitions = .ok s) :
    ∃ t, ofDefinitions permuted = .ok t := by
  obtain ⟨s, hs⟩ := h
  obtain ⟨rules, hrules, hs⟩ := ofDefinitions_ok.mp hs
  obtain ⟨others, hothers, hperm⟩ := define_perm hp hrules
  obtain ⟨hd, hrank⟩ := exists_ofRules_iff.mp ⟨s, hs⟩
  obtain ⟨t, ht⟩ := exists_ofRules_iff.mpr ⟨hd.perm hperm, hrank.perm hperm⟩
  exact ⟨t, ofDefinitions_ok.mpr ⟨others, hothers, ht⟩⟩

theorem rules_perm (hp : definitions.Perm permuted) (hs : ofDefinitions definitions = .ok s)
    (ht : ofDefinitions permuted = .ok t) : s.rules.Perm t.rules := by
  obtain ⟨rules, hrules, hs⟩ := ofDefinitions_ok.mp hs
  obtain ⟨others, hothers, ht⟩ := ofDefinitions_ok.mp ht
  obtain ⟨same, hsame, hperm⟩ := define_perm hp hrules
  have heq : same = others :=
    Except.ok.inj ((mapM_ok.mpr hsame).symm.trans (mapM_ok.mpr hothers))
  rw [(ofRules_ok.mp hs).2.1, (ofRules_ok.mp ht).2.1, ← heq]
  exact hperm

theorem stratified (hs : ofDefinitions definitions = .ok s) : Stratified s.ordered := by
  obtain ⟨rules, _, hs⟩ := ofDefinitions_ok.mp hs
  exact (exists_ofRules_iff.mp ⟨s, hs⟩).2.perm (ordered_perm hs).symm

/-- A pass that goes on at failures reports every definition once. -/
theorem run_names (hs : ofDefinitions definitions = .ok s) (c : Config) :
    ((s.run .collectAll c).1.map Resolution.rule).Perm (definitions.map Prod.fst) := by
  rw [← rules_names hs]
  obtain ⟨-, hall⟩ | ⟨hmode, -⟩ := pass_end .collectAll s.ordered c
  · unfold run
    rw [hall]
    exact (accepted hs).1.map Rule.name
  · cases hmode

/-- The order of definitions decides neither whether they make a rule set nor what a pass comes to:
every definition is reported, each rule selects and does the same, and the configurations differ at
most in the order of keys. -/
theorem order_independent (hp : definitions.Perm permuted) :
    ((∃ s, ofDefinitions definitions = .ok s) ↔ ∃ t, ofDefinitions permuted = .ok t) ∧
      ∀ s t, ofDefinitions definitions = .ok s → ofDefinitions permuted = .ok t →
        Separate s.rules → ∀ c,
          ((s.run .collectAll c).1.map Resolution.rule).Perm (definitions.map Prod.fst) ∧
          (s.run .collectAll c).1.Perm (t.run .collectAll c).1 ∧
          (∀ x ∈ (s.run .collectAll c).1, ∀ y ∈ (t.run .collectAll c).1, x.rule = y.rule →
            x.selected = y.selected ∧ x.outcome = y.outcome) ∧
          Json.Alike (.object (s.run .collectAll c).2) (.object (t.run .collectAll c).2) ∧
          (s.run .failFast c).1.isSuccess = (t.run .failFast c).1.isSuccess := by
  refine ⟨⟨accepts_perm hp, accepts_perm hp.symm⟩, ?_⟩
  intro s t hs ht hseparate c
  obtain ⟨hsp, ha⟩ := accepted hs
  obtain ⟨htp, hb⟩ := accepted ht
  have hperm : s.ordered.Perm t.ordered := hsp.trans ((rules_perm hp hs ht).trans htp.symm)
  have hseparate : Separate s.ordered := hseparate.perm hsp.symm
  have hrank := stratified hs
  have hreport : (s.run .collectAll c).1.Perm (t.run .collectAll c).1 :=
    report_perm ha hb hseparate hperm hrank
  refine ⟨run_names hs c, hreport, ?_, config_alike ha hb hseparate hperm hrank, ?_⟩
  · intro x hx y hy hname
    rw [resolution_eq ha hb hseparate hperm hrank hx hy hname]
    exact ⟨rfl, rfl⟩
  · unfold run at hreport ⊢
    rw [failFast_isSuccess, failFast_isSuccess]
    exact hreport.all_eq

theorem order_independent_limitByLevel : ∃ s t, ofDefinitions limitByLevel = .ok s ∧
    ofDefinitions limitByLevel.reverse = .ok t ∧ Separate s.rules ∧
      ((s.run .collectAll []).1.map Resolution.rule).Perm (limitByLevel.map Prod.fst) ∧
      (s.run .collectAll []).1.Perm (t.run .collectAll []).1 ∧
      Json.Alike (.object (s.run .collectAll []).2) (.object (t.run .collectAll []).2) := by
  obtain ⟨s, hs, hseparate⟩ : ∃ s, ofDefinitions limitByLevel = .ok s ∧ Separate s.rules :=
    exists_ok (by decide +kernel)
  have hboth := order_independent (List.reverse_perm limitByLevel).symm
  obtain ⟨t, ht⟩ := hboth.1.mp ⟨s, hs⟩
  obtain ⟨hnames, hreport, _, hconfig, _⟩ := hboth.2 s t hs ht hseparate []
  exact ⟨s, t, hs, ht, hseparate, hnames, hreport, hconfig⟩

end Ruleset

end ConfigRules
