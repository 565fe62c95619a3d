import ConfigRules.Proofs.WellFormed

/-!
The laws of items. What is written to an item is what is read there, the last write counts, writing
what is there changes nothing, and items apart from each other do not meet. Two paths name one item
exactly when no configuration tells them apart.
-/

namespace ConfigRules

/-- Giving a key a value leaves the keys in their places, and a new key comes behind them. -/
theorem Keyed.keys_put {κ α : Type} [DecidableEq κ] (key : κ) (v : α) (es : Keyed κ α) :
    es.map Prod.fst <+: (put key v es).map Prod.fst := by
  induction es with
  | nil => exact List.nil_prefix
  | cons e es ih =>
    obtain ⟨k, x⟩ := e
    unfold put
    split
    · exact List.prefix_rfl
    · exact List.cons_prefix_cons.mpr ⟨rfl, ih⟩

namespace Json

theorem set_set (ks : List String) (v w j : Json) : set ks w (set ks v j) = set ks w j := by
  induction ks generalizing j with
  | nil => rfl
  | cons key keys ih =>
    simp only [set, members_object, Keyed.get?_put_self, Option.getD_some, Keyed.put_put, ih]

/-- A write below a value that is present is a write within that value. -/
theorem get?_set_append {ks : List String} {i j : Json} (h : j.get? ks = some i)
    (ls : List String) (v : Json) : (set (ks ++ ls) v j).get? ks = some (set ls v i) := by
  induction ks generalizing j with
  | nil =>
    cases h
    rfl
  | cons key keys ih =>
    obtain ⟨k, hk, h⟩ := Option.bind_eq_some_iff.mp h
    simp only [List.cons_append, set, get?, members_object, Keyed.get?_put_self, hk,
      Option.getD_some, Option.bind_some]
    exact ih h

end Json

namespace Path

variable {p q : Path}

theorem set_set (p : Path) (v w : Json) (c : Config) : p.set w (p.set v c) = p.set w c := by
  have ho : Json.object (p.set w (p.set v c)) = Json.object (p.set w c) := by
    rw [object_set, object_set, object_set, Json.set_set]
  exact Json.object.inj ho

/-- An object on the way to an item keeps its keys in their order. -/
theorem keys_set {ks : List String} {c : Config} {ms : Json.Members} (hk : ks <+: p.segments)
    (hne : ks ≠ p.segments) (h : (Json.object c).get? ks = some (.object ms)) (v : Json) :
    ∃ ns, (Json.object (p.set v c)).get? ks = some (.object ns) ∧
      ms.map Prod.fst <+: ns.map Prod.fst := by
  obtain ⟨ls, hl⟩ := hk
  cases ls with
  | nil => exact absurd (by rwa [List.append_nil] at hl) hne
  | cons key keys =>
    rw [object_set, ← hl, Json.get?_set_append h]
    exact ⟨_, rfl, Keyed.keys_put key _ ms⟩

/-- The configuration that has nothing but null at one item. -/
def alone (p : Path) : Config := p.set .null []

theorem get?_alone (p : Path) : p.get? p.alone = some .null := get?_set_self p .null []

theorem wellFormed_alone (p : Path) : (Json.object p.alone).WellFormed := by
  unfold alone
  rw [object_set]
  exact (Json.WellFormed.of_members rfl).set (.of_members rfl)

theorem get?_alone_below (h : p.Above q) : q.get? p.alone = none := by
  refine get?_below_leaf h ?_
  rw [get?_alone]
  rintro j ⟨⟩
  rfl

theorem get?_alone_apart (h : Apart p.segments q.segments) : q.get? p.alone = none :=
  (get?_set_apart h .null []).trans (Json.get?_leaf rfl q.segments_ne_nil)

/-- Of two different items, one can be there without the other. -/
theorem exists_get?_ne (h : ¬ p.SameItem q) :
    ∃ c : Config, (Json.object c).WellFormed ∧ p.get? c ≠ q.get? c := by
  by_cases hp : p.LeadsTo q
  · refine ⟨p.alone, wellFormed_alone p, ?_⟩
    rw [get?_alone, get?_alone_below ⟨hp, h⟩]
    exact nofun
  · obtain hq | hapart := below_or_apart hp
    · refine ⟨q.alone, wellFormed_alone q, ?_⟩
      rw [get?_alone, get?_alone_below hq]
      exact nofun
    · refine ⟨p.alone, wellFormed_alone p, ?_⟩
      rw [get?_alone, get?_alone_apart hapart.symm]
      exact nofun

/-- Two paths name one item when every configuration has the same there. -/
theorem sameItem_iff : p.SameItem q ↔ ∀ c, p.get? c = q.get? c := by
  refine ⟨get?_congr, fun h => ?_⟩
  by_cases hs : p.SameItem q
  · exact hs
  · obtain ⟨c, -, hc⟩ := exists_get?_ne hs
    exact absurd (h c) hc

/-- Reading an item gives what was last written there, and writing what is there changes nothing.
A write is not seen by items apart from it, and keeps the order of the keys of every object on its
way. Two paths name one item exactly when all configurations have the same there, and one without
repeated keys tells any other two paths apart. -/
theorem lens (p : Path) :
    (∀ v c, p.get? (p.set v c) = some v) ∧
      (∀ v w c, p.set w (p.set v c) = p.set w c) ∧
      (∀ v c, p.get? c = some v → p.set v c = c) ∧
      (∀ q : Path, Apart p.segments q.segments → ∀ v c, q.get? (p.set v c) = q.get? c) ∧
      (∀ ks c ms, ks <+: p.segments → ks ≠ p.segments →
        (Json.object c).get? ks = some (.object ms) → ∀ v,
          ∃ ns, (Json.object (p.set v c)).get? ks = some (.object ns) ∧
            ms.map Prod.fst <+: ns.map Prod.fst) ∧
      (∀ q : Path, p.SameItem q ↔ ∀ c, p.get? c = q.get? c) ∧
      ∀ q : Path, ¬ p.SameItem q →
        ∃ c : Config, (Json.object c).WellFormed ∧ p.get? c ≠ q.get? c :=
  ⟨get?_set_self p, set_set p, fun _ _ => set_of_get?, fun _ => get?_set_apart,
    fun _ _ _ => keys_set, fun _ => sameItem_iff, fun _ => exists_get?_ne⟩

/-- A host and a port, and a name beside them. -/
def network : Config :=
  [("net", .object [("host", .string "a"), ("port", .bool true)]), ("name", .string "x")]

theorem lens_network :
    Path.get? ⟨"/net/host"⟩ network = some (.string "a") ∧
      Path.set ⟨"/net/host"⟩ (.string "a") network = network ∧
      Apart (Path.segments ⟨"/net/host"⟩) (Path.segments ⟨"/net/port"⟩) ∧
      Path.get? ⟨"/net/port"⟩ (Path.set ⟨"/net/host"⟩ .null network) = some (.bool true) ∧
      (∃ ns, (Json.object (Path.set ⟨"/net/host"⟩ .null network)).get? ["net"] =
        some (.object ns) ∧ ["host", "port"] <+: ns.map Prod.fst) ∧
      ∃ c : Config, (Json.object c).WellFormed ∧
        Path.get? ⟨"/net/host"⟩ c ≠ Path.get? ⟨"net/host"⟩ c := by
  obtain ⟨-, -, hkept, hframe, horder, -, hdiffer⟩ := lens ⟨"/net/host"⟩
  have hhost : Path.get? ⟨"/net/host"⟩ network = some (.string "a") := rfl
  have hport : Path.get? ⟨"/net/port"⟩ network = some (.bool true) := rfl
  have hapart : Apart (Path.segments ⟨"/net/host"⟩) (Path.segments ⟨"/net/port"⟩) := by
    unfold Apart
    decide
  have hnet : (Json.object network).get? ["net"] =
      some (.object [("host", .string "a"), ("port", .bool true)]) := rfl
  exact ⟨hhost, hkept _ _ hhost, hapart, (hframe _ hapart _ _).trans hport,
    horder ["net"] network _ (by decide) (by decide) hnet .null, hdiffer _ (by decide)⟩

end Path

end ConfigRules
