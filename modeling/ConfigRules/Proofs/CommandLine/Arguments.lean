import ConfigRules.CommandLine.Arguments
import ConfigRules.Proofs.Except

/-!
Asking for all failures. A call that does not ask for them asks for the same check, and for them as
well, once the switch stands in front.
-/

namespace ConfigRules.CommandLine

/-- The draft with all failures asked for. -/
def Draft.collecting (d : Draft) : Draft := { d with collectAll := true }

/-- The same call with all failures asked for. -/
def Arguments.collecting (a : Arguments) : Arguments := { a with collectAll := true }

/-- Steps that keep the switch once it is given. Where they do not give it, they come to the same if
it is given before them. -/
structure Indifferent (step : Draft → Except Stop Draft) : Prop where
  kept : ∀ {d e}, step d = .ok e → d.collectAll = true → e.collectAll = true
  ahead : ∀ {d e}, step d = .ok e → e.collectAll = false → step d.collecting = .ok e.collecting

variable {first second : Draft → Except Stop Draft}

namespace Indifferent

theorem pure : Indifferent .ok := by
  constructor
  · rintro d _ ⟨⟩ hd
    exact hd
  · rintro d _ ⟨⟩ -
    rfl

theorem error {stop : Stop} : Indifferent fun _ => .error stop := ⟨nofun, nofun⟩

theorem bind (hf : Indifferent first) (hs : Indifferent second) :
    Indifferent fun d => first d >>= second := by
  constructor
  · intro d e h hd
    obtain ⟨mid, hmid, he⟩ := bind_ok.mp h
    exact hs.kept he (hf.kept hmid hd)
  · intro d e h he
    obtain ⟨mid, hmid, hend⟩ := bind_ok.mp h
    have hnot : mid.collectAll = false :=
      Bool.eq_false_iff.mpr fun hmid' => Bool.false_ne_true (he.symm.trans (hs.kept hend hmid'))
    exact bind_ok.mpr ⟨mid.collecting, hf.ahead hmid hnot, hs.ahead hend he⟩

theorem setPlain (argument : String) : Indifferent (Draft.setPlain · argument) := by
  constructor
  · intro d e h hd
    unfold Draft.setPlain at h
    split at h
    · cases h
    · obtain ⟨config, -, h⟩ := bind_ok.mp h
      cases pure_ok.mp h
      exact hd
  · intro d e h _
    unfold Draft.setPlain at h ⊢
    split at h
    · cases h
    · rename_i hfree
      obtain ⟨config, hconfig, h⟩ := bind_ok.mp h
      cases pure_ok.mp h
      exact (if_neg hfree).trans (bind_ok.mpr ⟨config, hconfig, rfl⟩)

theorem setOption (argument value : String) (o : Opt) :
    Indifferent (Draft.setOption · argument value o) := by
  constructor
  · intro d e h hd
    cases o <;>
    · obtain ⟨value, -, h⟩ := bind_ok.mp h
      cases pure_ok.mp h
      exact hd
  · intro d e h _
    cases o <;>
    · obtain ⟨value, hvalue, h⟩ := bind_ok.mp h
      cases pure_ok.mp h
      exact bind_ok.mpr ⟨value, hvalue, rfl⟩

theorem setSwitch (argument : String) (s : Switch) :
    Indifferent (Draft.setSwitch · argument s) := by
  cases s with
  | collectAll =>
    constructor
    · intro d e h hd
      simp [Draft.setSwitch, hd] at h
    · intro d e h he
      simp only [Draft.setSwitch] at h
      split at h <;> cases h
      cases he
  | pretty =>
    constructor
    · intro d e h hd
      simp only [Draft.setSwitch] at h
      split at h <;> cases h
      exact hd
    · intro d e h _
      unfold Draft.setSwitch at h ⊢
      dsimp only at h ⊢
      split at h
      · cases h
      · rename_i hfree
        cases h
        exact if_neg hfree
  | help | version => exact error

end Indifferent

variable {arguments : List String} {rulesVariable : Option String} {a : Arguments}

end ConfigRules.CommandLine
