import ConfigRules.Proofs.EvaluationOrder
import Mathlib.Data.List.Chain

/-!
The circle that is reported for rules that cannot be put in order. What cannot be put in order may
only lie behind a circle; taking away what leads nowhere, again and again, leaves every circle as it
is, and from what is left a walk can always go on, so that it comes back to where it has been.
-/

namespace ConfigRules

/-- A way along a relation that ends where it began, and comes to nothing else twice. -/
structure Circle {α : Type} (R : α → α → Prop) (path : List α) : Prop where
  long : 2 ≤ path.length
  closed : path.head? = path.getLast?
  distinct : path.dropLast.Nodup
  linked : path.IsChain R

section

variable {α β : Type} {R : α → α → Prop} {S : β → β → Prop} {path : List α}

theorem Circle.mem_dropLast (h : Circle R path) {a : α} (ha : a ∈ path) : a ∈ path.dropLast := by
  obtain ⟨hlong, hclosed, _, _⟩ := h
  match path with
  | [] => simp at hlong
  | [_] => simp at hlong
  | b :: c :: rest =>
    have hsplit := List.dropLast_append_getLast (List.cons_ne_nil b (c :: rest))
    rw [← hsplit] at ha
    rcases List.mem_append.mp ha with ha | ha
    · exact ha
    · -- the last thing is the first one, which is not left out
      rw [List.getLast?_eq_some_getLast (List.cons_ne_nil b (c :: rest))] at hclosed
      have hfirst : b = a := (Option.some.inj hclosed).trans (List.mem_singleton.mp ha).symm
      simp [hfirst]

theorem exists_next (h : path.IsChain R) {a : α} (ha : a ∈ path.dropLast) : ∃ b, R a b := by
  induction h with
  | nil => cases ha
  | singleton => cases ha
  | cons_cons hab _ ih =>
    rcases List.mem_cons.mp ha with rfl | ha
    · exact ⟨_, hab⟩
    · exact ih ha

/-- From everything on a circle the way goes on. -/
theorem Circle.next (h : Circle R path) {a : α} (ha : a ∈ path) : ∃ b, R a b :=
  exists_next h.linked (h.mem_dropLast ha)

theorem Circle.map {f : α → β} (h : Circle R path) (hf : ∀ a b, R a b → S (f a) (f b))
    (hinj : ∀ a ∈ path, ∀ b ∈ path, f a = f b → a = b) : Circle S (path.map f) where
  long := by simpa using h.long
  closed := by rw [List.head?_map, List.getLast?_map, h.closed]
  distinct := by
    rw [← List.map_dropLast]
    apply h.distinct.map_on
    intro a ha b hb
    exact hinj a (List.mem_of_mem_dropLast ha) b (List.mem_of_mem_dropLast hb)
  linked := List.isChain_map_of_isChain f hf h.linked

/-- Where nothing leads to itself, a circle goes through at least two things. -/
theorem Circle.length_ge (h : Circle R path) (hirrefl : ∀ a, ¬ R a a) : 3 ≤ path.length := by
  obtain ⟨hlong, hclosed, _, hlinked⟩ := h
  match path with
  | [] => simp at hlong
  | [_] => simp at hlong
  | [a, b] =>
    obtain rfl : a = b := by simpa using hclosed
    exact absurd (List.isChain_pair.mp hlinked) (hirrefl a)
  | _ :: _ :: _ :: _ => simp

theorem dropWhile_of_mem [DecidableEq α] {a : α} (h : a ∈ path) :
    ∃ before after, path = before ++ a :: after ∧ path.dropWhile (· != a) = a :: after := by
  induction path with
  | nil => cases h
  | cons b rest ih =>
    by_cases hb : b = a
    · subst hb
      exact ⟨[], rest, rfl, by simp⟩
    · have hrest : a ∈ rest := (List.mem_cons.mp h).resolve_left (Ne.symm hb)
      obtain ⟨before, after, hsplit, hdrop⟩ := ih hrest
      exact ⟨b :: before, after, by rw [hsplit]; rfl, by simpa [hb] using hdrop⟩

end

namespace Precedence

variable {g : Precedence} {done things path : List Nat} {i j : Nat}

abbrev Edge (g : Precedence) (i j : Nat) : Prop := (i, j) ∈ g.edges

/-- The thing would have to come before itself, over a number of others. -/
def OnCycle (g : Precedence) (i : Nat) : Prop := Relation.TransGen g.Edge i i

theorem OnCycle.follower (h : g.OnCycle i) : ∃ j, g.OnCycle j ∧ g.Edge i j := by
  obtain ⟨j, hij, hji⟩ := Relation.TransGen.head'_iff.mp h
  exact ⟨j, Relation.TransGen.tail' hji hij, hij⟩

theorem OnCycle.leader (h : g.OnCycle i) : ∃ j, g.OnCycle j ∧ g.Edge j i := by
  obtain ⟨j, hij, hji⟩ := Relation.TransGen.tail'_iff.mp h
  exact ⟨j, Relation.TransGen.head' hji hij, hji⟩

theorem OnCycle.not_mem (h : g.OnCycle i) (hb : g.Built done) : i ∉ done := by
  induction hb generalizing i with
  | nil => simp
  | snoc _ hn ih =>
    intro hi
    rcases List.mem_append.mp hi with hi | hi
    · exact ih h hi
    · -- the thing before it on the cycle would have to be there first
      obtain ⟨j, hj, hedge⟩ := h.leader
      exact ih hj (hn.ready.2 _ hedge (List.mem_singleton.mp hi))

theorem OnCycle.mem_stuck (h : g.OnCycle i) (hb : g.Bounded) : i ∈ g.stuck := by
  obtain ⟨j, _, hedge⟩ := h.follower
  refine List.mem_filter.mpr ⟨List.mem_range.mpr (hb _ hedge).1, ?_⟩
  simpa using h.not_mem (sorted_built g)

/-- Taking things away ends when every one that is left leads to another one of them. -/
theorem core_leads (g : Precedence) (things : List Nat) :
    ∀ i ∈ g.core things, g.Leads (g.core things) i := by
  fun_induction core g things with
  | case1 things _ ih => exact ih
  | case2 things h =>
    intro i hi
    have hall := List.length_filter_eq_length_iff.mp
      (Nat.le_antisymm (List.length_filter_le _ _) (Nat.not_lt.mp h))
    simpa using hall i hi

/-- Nothing on a cycle is taken away. -/
theorem OnCycle.mem_core (h : g.OnCycle i) (hin : ∀ j, g.OnCycle j → j ∈ things) :
    i ∈ g.core things := by
  fun_induction core g things with
  | case1 things _ ih =>
    apply ih
    intro j hj
    obtain ⟨k, hk, hedge⟩ := hj.follower
    refine List.mem_filter.mpr ⟨hin j hj, ?_⟩
    exact decide_eq_true ⟨k, hin k hk, hedge⟩
  | case2 things _ => exact hin i h

/-- Things in a row within others, each before the next, with the last one given. -/
structure Trail (g : Precedence) (things path : List Nat) (i : Nat) : Prop where
  nodup : path.Nodup
  within : path ⊆ things
  linked : path.IsChain g.Edge
  last : path.getLast? = some i

theorem Trail.snoc (h : g.Trail things path i) (hj : j ∈ things) (hnew : j ∉ path)
    (hedge : g.Edge i j) : g.Trail things (path ++ [j]) j where
  nodup := by
    rw [List.nodup_append]
    refine ⟨h.nodup, by simp, ?_⟩
    intro a ha b hb he
    rw [List.mem_singleton.mp hb] at he
    exact hnew (he ▸ ha)
  within := List.append_subset.mpr ⟨h.within, by simpa using hj⟩
  linked := by
    rw [List.isChain_append]
    refine ⟨h.linked, List.isChain_singleton j, ?_⟩
    simpa [h.last] using hedge
  last := by simp

theorem Trail.close (h : g.Trail things path i) (hj : j ∈ path) (hedge : g.Edge i j) :
    Circle g.Edge (path.dropWhile (· != j) ++ [j]) := by
  obtain ⟨before, after, hsplit, hdrop⟩ := dropWhile_of_mem hj
  have hsuffix : j :: after <:+ path := ⟨before, hsplit.symm⟩
  have hlast : (j :: after).getLast? = some i := by
    have hwhole := h.last
    rwa [hsplit, List.getLast?_append_cons] at hwhole
  rw [hdrop]
  refine ⟨by simp, by rw [List.getLast?_concat]; rfl, ?_, ?_⟩
  · rw [List.dropLast_concat]
    exact h.nodup.sublist hsuffix.sublist
  · rw [List.isChain_append]
    refine ⟨h.linked.suffix hsuffix, List.isChain_singleton j, ?_⟩
    simpa [hlast] using hedge

/-- There are some things, and from each of them a walk within them goes on. -/
structure Endless (g : Precedence) (things : List Nat) : Prop where
  nonempty : things ≠ []
  leads : ∀ i ∈ things, g.Leads things i

/-- The walk finds a circle: it can always go on, and it cannot come to more things than there are
without coming to one of them again. -/
theorem Endless.walk (he : g.Endless things) {count : Nat} (h : g.Trail things path i)
    (hcount : things.length < path.length + count) :
    Circle g.Edge (g.walk things count path i) := by
  induction count generalizing path i with
  | zero =>
    have hle := (List.subperm_of_subset h.nodup h.within).length_le
    omega
  | succ count ih =>
    have hi : i ∈ things := h.within (List.mem_of_getLast? h.last)
    unfold Precedence.walk
    split
    · rename_i hnone
      obtain ⟨j, hj, hedge⟩ := he.leads i hi
      exact absurd hedge (by simpa using List.find?_eq_none.mp hnone j hj)
    · rename_i j hfound
      have hj := List.mem_of_find?_eq_some hfound
      have hedge : g.Edge i j := by simpa using List.find?_some hfound
      split
      · rename_i hseen
        exact h.close hseen hedge
      · rename_i hnew
        refine ih (h.snoc hj hnew hedge) ?_
        rw [List.length_append, List.length_singleton]
        omega

theorem OnCycle.endless (h : g.OnCycle i) (hb : g.Bounded) : g.Endless (g.core g.stuck) where
  nonempty := List.ne_nil_of_mem (h.mem_core fun _ hj => hj.mem_stuck hb)
  leads := core_leads g g.stuck

theorem cycle_circle (h : g.Endless (g.core g.stuck)) : Circle g.Edge g.cycle := by
  unfold cycle
  split
  · rename_i hnil
    exact absurd hnil h.nonempty
  · rename_i k rest hcons
    rw [hcons] at h
    exact h.walk ⟨by simp, by simp, List.isChain_singleton k, rfl⟩ (by simp)

theorem OnCycle.order_eq (h : g.OnCycle i) (hb : g.Bounded) :
    g.order = .error g.cycle ∧ Circle g.Edge g.cycle := by
  refine ⟨?_, cycle_circle (h.endless hb)⟩
  have hlength : g.sorted.length ≠ g.size := by
    intro hl
    obtain ⟨j, _, hedge⟩ := h.follower
    have hmem := ((sorted_built g).perm_range hl).mem_iff.mpr (List.mem_range.mpr (hb _ hedge).1)
    exact h.not_mem (sorted_built g) hmem
  exact if_neg hlength

/-- What lies behind a circle is not in it. -/
example : (Precedence.mk 4 [(2, 1), (1, 2), (1, 3)]).cycle = [1, 2, 1] := by cbv

end Precedence

namespace Ruleset

variable {rules : List Rule}

theorem exists_onCycle (hd : Distinct rules) (h : ¬ Acyclic rules) :
    ∃ i, (precedence rules).OnCycle i := by
  obtain ⟨r, hr⟩ : ∃ r, Relation.TransGen (Precedes rules) r r := by simpa [Acyclic] using h
  refine ⟨position rules r, Relation.TransGen.lift (position rules) ?_ _ _ hr⟩
  intro q r hqr
  exact edge_of_refersTo hd hqr.1 hqr.2.1 hqr.2.2

theorem pick_circle (hd : Distinct rules) {indices : List Nat}
    (h : Circle (precedence rules).Edge indices) :
    Circle (Precedes rules) (pick rules indices) := by
  have hrule : ∀ i ∈ indices, ∃ r, rules[i]? = some r := by
    intro i hi
    obtain ⟨j, hedge⟩ := h.next hi
    obtain ⟨q, _, hq, _⟩ := (mem_edges hd).mp hedge
    exact ⟨q, hq⟩
  obtain ⟨k, hk⟩ : ∃ k, k ∈ indices := List.exists_mem_of_length_pos (Nat.lt_of_succ_lt h.long)
  obtain ⟨any, _⟩ := hrule k hk
  have hpick : pick rules indices = indices.map fun i => rules[i]?.getD any := by
    rw [← List.filterMap_eq_map']
    apply List.filterMap_congr
    intro i hi
    obtain ⟨r, hr⟩ := hrule i hi
    simp [hr]
  rw [hpick]
  apply h.map
  · intro i j hedge
    obtain ⟨q, r, hq, hr, hrefers⟩ := (mem_edges hd).mp hedge
    rw [hq, hr]
    exact ⟨List.mem_of_getElem? hq, List.mem_of_getElem? hr, hrefers⟩
  · intro i hi j hj he
    obtain ⟨q, hq⟩ := hrule i hi
    obtain ⟨r, hr⟩ := hrule j hj
    rw [hq, hr, Option.getD_some, Option.getD_some] at he
    have hsame : q.path.SameItem r.path := by rw [he]; rfl
    have hindex : indexOf? rules r.path = some i := (indexOf?_eq_some hd).mpr ⟨q, hq, hsame⟩
    rw [(indexOf?_eq_some hd).mpr ⟨r, hr, rfl⟩] at hindex
    exact (Option.some.inj hindex).symm

/-- Rules for different items that depend on one another in a circle are refused with such a circle:
each of its rules is a dependency of the next one, and no name but the first comes twice. The search
for it always has something left and can always go on. -/
theorem circle_reported
    (hparsed : ∀ r ∈ rules, ∃ name definition, Rule.define name definition = .ok r)
    (hd : Distinct rules) (h : ¬ Acyclic rules) :
    (∃ circle : List Rule, ofRules rules = .error (.cycle (circle.map Rule.name)) ∧
        Circle (Precedes rules) circle ∧ 3 ≤ circle.length ∧
        (circle.dropLast.map Rule.name).Nodup) ∧
      (precedence rules).Endless ((precedence rules).core (precedence rules).stuck) := by
  obtain ⟨i, hi⟩ := exists_onCycle hd h
  obtain ⟨horder, hindices⟩ := hi.order_eq (precedence_bounded hd)
  have hcircle := pick_circle hd hindices
  refine ⟨⟨_, ?_, hcircle, ?_, ?_⟩, hi.endless (precedence_bounded hd)⟩
  · unfold ofRules
    rw [duplicate?_eq_none.mpr ⟨hd, by simp⟩, horder]
  · apply hcircle.length_ge
    intro r hr
    obtain ⟨name, definition, hdefine⟩ := hparsed r hr.1
    exact (Rule.define_defined hdefine).foreign hr.2.2
  · apply hcircle.distinct.map_on
    intro q hq r hr
    obtain ⟨_, hq, _⟩ := hcircle.next (List.mem_of_mem_dropLast hq)
    obtain ⟨_, hr, _⟩ := hcircle.next (List.mem_of_mem_dropLast hr)
    exact hd.eq_of_name hq hr

/-- An integer with another default under a condition. -/
def defaultUnder (condition : String) : Json :=
  .object (withDefault 0 ++ [(condition, .object [("default", (Scalar.int 1).toJson)])])

/-- Two rules, each of which depends on the other one in another spelling. -/
theorem circle_reported_pair : ∃ q r : Rule,
    Rule.define "a" (defaultUnder "{/b} == 0") = .ok q ∧
    Rule.define "b" (defaultUnder "{/a} == 0") = .ok r ∧ Distinct [q, r] ∧ ¬ Acyclic [q, r] ∧
      ∃ circle : List Rule, ofRules [q, r] = .error (.cycle (circle.map Rule.name)) ∧
        Circle (Precedes [q, r]) circle ∧ 3 ≤ circle.length := by
  obtain ⟨q, hq, hqname, hqr⟩ : ∃ q, Rule.define "a" (defaultUnder "{/b} == 0") = .ok q ∧
      q.name = "a" ∧ q.RefersTo ⟨"b"⟩ := exists_ok (by decide +kernel)
  obtain ⟨r, hr, hrname, hrq⟩ : ∃ r, Rule.define "b" (defaultUnder "{/a} == 0") = .ok r ∧
      r.name = "b" ∧ r.RefersTo ⟨"a"⟩ := exists_ok (by decide +kernel)
  have hqpath : q.path = ⟨"a"⟩ := by rw [Rule.path, hqname]
  have hrpath : r.path = ⟨"b"⟩ := by rw [Rule.path, hrname]
  have hparsed : ∀ x ∈ [q, r], ∃ name definition, Rule.define name definition = .ok x := by
    intro x hx
    rcases List.mem_pair.mp hx with rfl | rfl
    · exact ⟨_, _, hq⟩
    · exact ⟨_, _, hr⟩
  have hd : Distinct [q, r] := List.pairwise_pair.mpr (by rw [hqpath, hrpath]; decide)
  have hcyclic : ¬ Acyclic [q, r] := by
    intro h
    have hthere : Precedes [q, r] q r := ⟨by simp, by simp, by rwa [hqpath]⟩
    have hback : Precedes [q, r] r q := ⟨by simp, by simp, by rwa [hrpath]⟩
    exact h q (.tail (.single hthere) hback)
  obtain ⟨circle, herror, hcircle, hlength, _⟩ := (circle_reported hparsed hd hcyclic).1
  exact ⟨q, r, hq, hr, hd, hcyclic, circle, herror, hcircle, hlength⟩

end Ruleset

end ConfigRules
