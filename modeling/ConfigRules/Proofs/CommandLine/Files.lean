import ConfigRules.CommandLine.Files
import ConfigRules.Proofs.Except

/-!
Which files can be written. That depends on the files that are there and not on what is in them.
-/

namespace ConfigRules

namespace Keyed

variable {κ α : Type} [DecidableEq κ] {xs ys : Keyed κ α}

theorem isSome_get? (key : κ) (xs : Keyed κ α) :
    (get? key xs).isSome = decide (key ∈ xs.map Prod.fst) := by
  induction xs with
  | nil => rfl
  | cons x xs ih =>
    obtain ⟨k, v⟩ := x
    by_cases h : k = key
    · simp [get?, h]
    · simp [get?, h, ih, Ne.symm h]

/-- Keys that are given values stand in the same places, whatever the values are. -/
theorem map_fst_put (key : κ) (v w : α) (h : xs.map Prod.fst = ys.map Prod.fst) :
    (put key v xs).map Prod.fst = (put key w ys).map Prod.fst := by
  induction xs generalizing ys with
  | nil =>
    obtain rfl := List.map_eq_nil_iff.mp h.symm
    rfl
  | cons x xs ih =>
    obtain ⟨y, ys, rfl⟩ := List.exists_cons_of_ne_nil (l := ys) (by rintro rfl; cases h)
    obtain ⟨hkey, hrest⟩ := List.cons.inj h
    obtain ⟨k, x⟩ := x
    obtain ⟨l, y⟩ := y
    obtain rfl : k = l := hkey
    by_cases hk : k = key
    · simpa [put, hk] using hrest
    · simpa [put, hk] using ih hrest

end Keyed

namespace CommandLine.Files

/-- The place that a path names for writing. -/
def target (files : Files) (path : String) : Except FileFault Place := do
  let r ← route path
  let parent ← (r.parts.dropLast ++ ["."]).foldlM files.enter r.start
  match r.parts.getLast? with
  | none => .error .isDirectory
  | some name =>
    if name = "." ∨ name = ".." ∨ r.endsInSlash then .error .isDirectory
    else
      let place ← files.enter parent name
      if files.hasDirectory place then .error .isDirectory else return place

/-- The same files are there. -/
def SameNames (files others : Files) : Prop := files.map Prod.fst = others.map Prod.fst

variable {files others after : Files} {path : String} {paths : List String}

/-- What is written is put at the place that the path names. -/
theorem write_eq (files : Files) (path content : String) :
    files.write path content = (files.put · content) <$> files.target path := by
  unfold write target
  simp only [map_bind]
  congr 1
  funext r
  congr 1
  funext parent
  generalize r.parts.getLast? = last
  split
  · rfl
  · simp
  · simp
  · rename_i name hdot hdots
    have hname : (name = "." ∨ name = ".." ∨ r.endsInSlash = true) = (r.endsInSlash = true) := by
      rw [eq_false hdot, eq_false hdots, false_or, false_or]
    simp only [hname]
    split
    · rfl
    · rw [map_bind]
      congr 1
      funext place
      split <;> rfl

theorem SameNames.hasDirectory (h : SameNames files others) :
    files.hasDirectory = others.hasDirectory := by
  have hany : ∀ p : List String → Bool,
      files.any (fun file => p file.1) = others.any fun file => p file.1 := by
    intro p
    have hmap : ∀ fs : Files, fs.any (fun file => p file.1) = (fs.map Prod.fst).any p := by
      intro fs
      rw [List.any_map]
      rfl
    rw [hmap, hmap, h]
  funext place
  unfold Files.hasDirectory
  simp only [hany fun names => place.names.isPrefixOf names && place.names.length < names.length]

theorem SameNames.content? (h : SameNames files others) (place : Place) :
    (files.content? place).isSome = (others.content? place).isSome := by
  unfold Files.content?
  split
  · rw [Keyed.isSome_get?, Keyed.isSome_get?, h]
  · rfl

theorem SameNames.enter (h : SameNames files others) : files.enter = others.enter := by
  funext place part
  unfold Files.enter
  rw [h.hasDirectory, h.content?]

theorem SameNames.target (h : SameNames files others) : files.target = others.target := by
  funext path
  unfold Files.target
  rw [h.enter, h.hasDirectory]

theorem SameNames.put (h : SameNames files others) (place : Place) (v w : String) :
    SameNames (files.put place v) (others.put place w) := by
  unfold Files.put
  split
  · exact Keyed.map_fst_put _ v w h
  · exact h

/-- Whatever can be written to a path, anything else can be. -/
theorem SameNames.write (h : SameNames files others) {v : String}
    (hv : files.write path v = .ok after) (w : String) :
    ∃ after', others.write path w = .ok after' ∧ SameNames after after' := by
  rw [write_eq] at hv
  cases htarget : files.target path with
  | error fault =>
    rw [htarget] at hv
    cases hv
  | ok place =>
    rw [htarget] at hv
    cases hv
    refine ⟨others.put place w, ?_, h.put place v w⟩
    rw [write_eq, ← h.target, htarget]
    rfl

/-- Something can be written to all of these paths, one after another. -/
def WritableInTurn (files : Files) (paths : List String) : Prop :=
  ∃ after, paths.foldlM (fun files path => files.write path "") files = .ok after

theorem SameNames.writableInTurn (h : SameNames files others)
    (hpaths : files.WritableInTurn paths) : others.WritableInTurn paths := by
  obtain ⟨after, hafter⟩ := hpaths
  induction paths generalizing files others with
  | nil => exact ⟨others, rfl⟩
  | cons path paths ih =>
    rw [List.foldlM_cons] at hafter
    obtain ⟨next, hnext, hafter⟩ := bind_ok.mp hafter
    obtain ⟨next', hnext', hsame⟩ := h.write hnext ""
    obtain ⟨after', hafter'⟩ := ih hsame hafter
    exact ⟨after', List.foldlM_cons.trans (bind_ok.mpr ⟨next', hnext', hafter'⟩)⟩

/-- Any content can be written to the first of the paths, and then to the others. -/
theorem WritableInTurn.write (h : files.WritableInTurn (path :: paths)) (content : String) :
    ∃ after, files.write path content = .ok after ∧ after.WritableInTurn paths := by
  obtain ⟨last, hlast⟩ := h
  rw [List.foldlM_cons] at hlast
  obtain ⟨next, hnext, hlast⟩ := bind_ok.mp hlast
  obtain ⟨after, hafter, hsame⟩ := SameNames.write rfl hnext content
  exact ⟨after, hafter, hsame.writableInTurn ⟨last, hlast⟩⟩

end CommandLine.Files

end ConfigRules
