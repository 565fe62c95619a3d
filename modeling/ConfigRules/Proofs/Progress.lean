import ConfigRules.Precedence
import Mathlib.Data.List.Perm.Subperm

/-!
Orders that grow by the least thing that can come next. While such an order is under way, its
counters say how many things each thing still waits for, and its queue holds exactly those that can
come next; so it ends when there is none.
-/

namespace ConfigRules.Precedence

variable {g : Precedence} {done owed : List Nat} {p : Progress} {i j k : Nat}

/-- A thing can come next when it has not come yet and all that must come before it have. -/
def Ready (g : Precedence) (done : List Nat) (i : Nat) : Prop :=
  i ∉ done ∧ ∀ e ∈ g.edges, e.2 = i → e.1 ∈ done

/-- The least thing that can come next. -/
structure Next (g : Precedence) (done : List Nat) (i : Nat) : Prop where
  lt_size : i < g.size
  ready : g.Ready done i
  least : ∀ j < g.size, g.Ready done j → i ≤ j

/-- A list to which the least thing that could come next has been added, again and again. -/
inductive Built (g : Precedence) : List Nat → Prop
  | nil : Built g []
  | snoc {done : List Nat} {i : Nat} : Built g done → g.Next done i → Built g (done ++ [i])

theorem Built.lt_size (h : g.Built done) : ∀ i ∈ done, i < g.size := by
  induction h with
  | nil => simp
  | snoc _ hn ih =>
    intro i hi
    rcases List.mem_append.mp hi with hi | hi
    · exact ih i hi
    · rw [List.mem_singleton.mp hi]
      exact hn.lt_size

theorem Built.nodup (h : g.Built done) : done.Nodup := by
  induction h with
  | nil => exact List.nodup_nil
  | snoc _ hn ih =>
    rw [List.nodup_append]
    refine ⟨ih, by simp, ?_⟩
    intro a ha b hb
    rw [List.mem_singleton.mp hb]
    intro he
    exact hn.ready.1 (he ▸ ha)

/-- What must come before a thing in the list is in the list. -/
theorem Built.closed (h : g.Built done) : ∀ e ∈ g.edges, e.2 ∈ done → e.1 ∈ done := by
  induction h with
  | nil => simp
  | snoc _ hn ih =>
    intro e he hi
    rcases List.mem_append.mp hi with hi | hi
    · exact List.mem_append_left _ (ih e he hi)
    · exact List.mem_append_left _ (hn.ready.2 e he (List.mem_singleton.mp hi))

theorem Built.subset_range (h : g.Built done) : done ⊆ List.range g.size :=
  fun i hi => List.mem_range.mpr (h.lt_size i hi)

theorem Built.length_le (h : g.Built done) : done.length ≤ g.size := by
  simpa using (List.subperm_of_subset h.nodup h.subset_range).length_le

theorem Built.perm_range (h : g.Built done) (hl : done.length = g.size) :
    done.Perm (List.range g.size) :=
  (List.subperm_of_subset h.nodup h.subset_range).perm_of_length_le (by simp [hl])

/-- How many edges lead to a thing from things that have not come. -/
def pending (g : Precedence) (done : List Nat) (i : Nat) : Nat :=
  g.edges.countP fun e => e.2 = i ∧ e.1 ∉ done

theorem ready_iff : g.Ready done i ↔ i ∉ done ∧ g.pending done i = 0 := by
  unfold Ready pending
  rw [List.countP_eq_zero]
  simp

theorem mem_followers : k ∈ g.followers i ↔ (i, k) ∈ g.edges := by
  unfold followers
  simp

theorem count_followers (g : Precedence) (i k : Nat) :
    (g.followers i).count k = g.edges.countP fun e => e.2 = k ∧ e.1 = i := by
  unfold followers
  rw [List.count, List.countP_map, List.countP_filter]
  apply List.countP_congr
  simp

/-- When a thing comes, its followers wait for one edge less, each as often as it follows. -/
theorem pending_snoc (hi : i ∉ done) (k : Nat) :
    g.pending done k = g.pending (done ++ [i]) k + (g.followers i).count k := by
  rw [count_followers]
  unfold pending
  induction g.edges with
  | nil => rfl
  | cons e edges ih =>
    simp only [List.countP_cons, ih]
    by_cases he : e.1 = i
    · simp [he, hi]
      omega
    · simp [he]
      omega

namespace Progress

/-- What holds of an order under way. The things `owed` still count an edge each, for every time
they are listed, that leads to them from a thing that has come. -/
structure Sound (g : Precedence) (owed : List Nat) (p : Progress) : Prop where
  built : g.Built p.done
  fresh : ∀ k ∈ owed, k ∉ p.done
  waiting : ∀ k n, p.waiting[k]? = some n ↔
    k < g.size ∧ n = g.pending p.done k + owed.count k
  ready : ∀ k, k ∈ p.ready ↔ k < g.size ∧ k ∉ p.done ∧ g.pending p.done k + owed.count k = 0
  nodup : p.ready.Nodup

theorem Sound.mem_ready (h : p.Sound g []) : k ∈ p.ready ↔ k < g.size ∧ g.Ready p.done k := by
  rw [h.ready, ready_iff, List.count_nil, Nat.add_zero]

theorem start_sound (g : Precedence) : (start g).Sound g [] := by
  have hwaiting : ∀ k n, (start g).waiting[k]? = some n ↔ k < g.size ∧ n = g.pending [] k := by
    intro k n
    simp only [start, List.getElem?_map, Option.map_eq_some_iff, List.getElem?_eq_some_iff,
      List.getElem_range, List.length_range]
    simp [pending, eq_comm]
  refine ⟨.nil, by simp, hwaiting, ?_, List.nodup_range.filter _⟩
  intro k
  have hzero := hwaiting k 0
  simp only [start, List.mem_filter, List.mem_range, decide_eq_true_eq] at hzero ⊢
  rw [hzero]
  simp
  omega

/-- A thing that is owed an edge is not in the queue: its counter is not at zero, so that taking one
off it is exact. -/
theorem Sound.not_mem_ready (h : p.Sound g (j :: owed)) : j ∉ p.ready := by
  intro hj
  have hzero := ((h.ready j).mp hj).2.2
  rw [List.count_cons_self] at hzero
  omega

theorem Sound.waiting_release (h : p.Sound g (j :: owed)) (k n : Nat) :
    (p.release j).waiting[k]? = some n ↔ k < g.size ∧ n = g.pending p.done k + owed.count k := by
  have hleft : ∀ m, (if j = k then m + (j :: owed).count k - 1 else m + (j :: owed).count k) =
      m + owed.count k := by
    intro m
    by_cases hk : j = k
    · rw [if_pos hk, hk, List.count_cons_self]
      omega
    · rw [if_neg hk, List.count_cons_of_ne hk]
  simp only [Progress.release, List.getElem?_modify, Option.map_eq_map, Option.map_eq_some_iff,
    h.waiting]
  constructor
  · rintro ⟨m, ⟨hk, rfl⟩, rfl⟩
    exact ⟨hk, hleft _⟩
  · rintro ⟨hk, rfl⟩
    exact ⟨_, ⟨hk, rfl⟩, hleft _⟩

/-- Only the thing that is released can join the queue, and it does when no other edge leads to it
from a thing that has not come. -/
theorem Sound.ready_release (h : p.Sound g (j :: owed)) (k : Nat) : k ∈ (p.release j).ready ↔
    k < g.size ∧ k ∉ p.done ∧ g.pending p.done k + owed.count k = 0 := by
  have hlast : p.waiting[j]? = some 1 ↔ j < g.size ∧ g.pending p.done j + owed.count j = 0 := by
    rw [h.waiting, List.count_cons_self]
    omega
  simp only [Progress.release]
  by_cases hk : k = j
  · subst hk
    split
    · rename_i hjoin
      obtain ⟨hlt, hzero⟩ := hlast.mp hjoin
      exact ⟨fun _ => ⟨hlt, h.fresh k List.mem_cons_self, hzero⟩, fun _ => List.mem_cons_self⟩
    · rename_i hstay
      refine ⟨fun hmem => absurd hmem h.not_mem_ready, ?_⟩
      rintro ⟨hlt, _, hzero⟩
      exact absurd (hlast.mpr ⟨hlt, hzero⟩) hstay
  · have hready := h.ready k
    rw [List.count_cons_of_ne (Ne.symm hk)] at hready
    rw [← hready]
    split <;> simp [hk]

theorem Sound.release (h : p.Sound g (j :: owed)) : (p.release j).Sound g owed where
  built := h.built
  fresh := fun k hk => h.fresh k (List.mem_cons_of_mem _ hk)
  waiting := h.waiting_release
  ready := h.ready_release
  nodup := by
    unfold Progress.release
    dsimp only
    split
    · exact List.nodup_cons.mpr ⟨h.not_mem_ready, h.nodup⟩
    · exact h.nodup

theorem Sound.releases (h : p.Sound g owed) : (owed.foldl Progress.release p).Sound g [] := by
  induction owed generalizing p with
  | nil => exact h
  | cons j owed ih => exact ih h.release

theorem Sound.place (h : p.Sound g []) (hi : g.Next p.done i) : (p.place g i).Sound g [] := by
  have hnot : i ∉ p.done := hi.ready.1
  apply Sound.releases
  refine ⟨h.built.snoc hi, ?_, ?_, ?_, h.nodup.erase i⟩
  · -- a follower that has come would have waited for the thing that comes now
    intro k hk hdone
    have hedge := mem_followers.mp hk
    rcases List.mem_append.mp hdone with hdone | hdone
    · exact hnot (h.built.closed _ hedge hdone)
    · exact hnot (hi.ready.2 _ hedge (List.mem_singleton.mp hdone))
  · intro k n
    rw [h.waiting, pending_snoc hnot k]
    simp
  · intro k
    rw [h.nodup.mem_erase_iff, h.ready, pending_snoc hnot k]
    simp
    tauto

theorem Sound.next (h : p.Sound g []) (hi : p.ready.min? = some i) : g.Next p.done i := by
  obtain ⟨hmem, hle⟩ := List.min?_eq_some_iff.mp hi
  obtain ⟨hlt, hready⟩ := h.mem_ready.mp hmem
  exact ⟨hlt, hready, fun j hj hr => hle j (h.mem_ready.mpr ⟨hj, hr⟩)⟩

theorem Sound.run (count : Nat) (h : p.Sound g []) : (run g count p).Sound g [] := by
  induction count generalizing p with
  | zero => exact h
  | succ count ih =>
    unfold Progress.run
    split
    · exact h
    · rename_i i hi
      exact ih (h.place (h.next hi))

theorem releases_done (p : Progress) : (owed.foldl release p).done = p.done := by
  induction owed generalizing p with
  | nil => rfl
  | cons j owed ih => exact ih _

/-- Things are placed up to the number given, or until none can come next. -/
theorem run_length_or_ready_nil (count : Nat) (p : Progress) :
    (run g count p).done.length = p.done.length + count ∨ (run g count p).ready = [] := by
  induction count generalizing p with
  | zero => exact .inl rfl
  | succ count ih =>
    unfold run
    split
    · rename_i hn
      exact .inr (List.min?_eq_none_iff.mp hn)
    · rename_i i _
      rcases ih (p.place g i) with hl | hn
      · left
        rw [hl, place, releases_done, List.length_append, List.length_singleton]
        omega
      · exact .inr hn

end Progress

theorem sorted_built (g : Precedence) : g.Built g.sorted :=
  ((Progress.start_sound g).run g.size).built

/-- The queue is empty in the end: it is not the number of steps that keeps anything out. -/
theorem ready_eq_nil (g : Precedence) : (Progress.run g g.size (.start g)).ready = [] := by
  have hsound := (Progress.start_sound g).run g.size
  rcases Progress.run_length_or_ready_nil (g := g) g.size (.start g) with hl | hn
  · apply List.eq_nil_iff_forall_not_mem.mpr
    intro i hi
    obtain ⟨hlt, hready⟩ := hsound.mem_ready.mp hi
    have hall := hsound.built.perm_range (hl.trans (Nat.zero_add _))
    exact hready.1 (hall.mem_iff.mpr (List.mem_range.mpr hlt))
  · exact hn

theorem sorted_stuck (g : Precedence) : ∀ i < g.size, ¬ g.Ready g.sorted i := by
  intro i hi hready
  have hmem := ((Progress.start_sound g).run g.size).mem_ready.mpr ⟨hi, hready⟩
  rw [ready_eq_nil] at hmem
  cases hmem

/-- Both 1 and 2 can come after 3, and then the lesser one does. -/
example : (Precedence.mk 4 [(1, 0), (2, 0), (3, 1), (3, 2)]).sorted = [3, 1, 2, 0] := by decide

end ConfigRules.Precedence
