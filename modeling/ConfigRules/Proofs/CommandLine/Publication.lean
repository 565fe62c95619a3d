import ConfigRules.CommandLine.Execution
import ConfigRules.Proofs.CommandLine.Files
import ConfigRules.Proofs.CommandLine.Tools
import ConfigRules.Proofs.ModeAgreement

/-!
What a call publishes. The checked configuration is printed or written only if every rule succeeds,
and the exit status tells so. Nothing of it is to be seen otherwise, whatever mode the rules are
applied in.
-/

namespace ConfigRules

namespace Ruleset

variable {s : Ruleset} {mode : Mode} {c : Config}

end Ruleset

namespace CommandLine

/-- The definitions make a rule set, all of whose rules succeed on a configuration; what they report
then, and the configuration they leave. -/
def Normalizes (definitions config : Config) (report : Report) (final : Config) : Prop :=
  ∃ rules, Ruleset.ofDefinitions definitions = .ok rules ∧
    rules.run .collectAll config = (report, final) ∧ report.isSuccess = true

theorem Normalizes.isSuccess {definitions config final : Config} {report : Report}
    (h : Normalizes definitions config report final) : report.isSuccess = true := by
  obtain ⟨_, _, _, hreport⟩ := h
  exact hreport

theorem exists_normalizes {definitions config : Config} :
    (∃ report final, Normalizes definitions config report final) ↔
      (Ruleset.ofDefinitions definitions).toOption.any
        (fun rules => (rules.run .collectAll config).1.isSuccess) = true := by
  unfold Normalizes
  cases Ruleset.ofDefinitions definitions with
  | error e => exact ⟨nofun, nofun⟩
  | ok rules =>
    constructor
    · rintro ⟨report, final, _, ⟨⟩, hrun, hreport⟩
      simpa [Except.toOption, hrun] using hreport
    · intro hreport
      exact ⟨_, _, rules, rfl, rfl, hreport⟩

instance (definitions config : Config) :
    Decidable (∃ report final, Normalizes definitions config report final) :=
  decidable_of_iff _ exists_normalizes.symm

theorem Normalizes.distinct {definitions config final : Config} {report : Report}
    (h : Normalizes definitions config report final) (hc : (Json.object config).Distinct) :
    (Json.object final).Distinct := by
  obtain ⟨rules, _, hrun, _⟩ := h
  have hfinal : (rules.run .collectAll config).2 = final := by rw [hrun]
  rw [← hfinal]
  exact pass_distinct hc

namespace Tools

end Tools

variable {t : Tools} {arguments more : List String} {vars : List (String × String)} {files : Files}
  {a : Arguments} {definitions config final : Config} {report : Report} {settings : Settings}
  {notice : String} {pretty : Bool} {r : Result} {paths : List String}

namespace Tools

/-- The arguments ask for the same check, with all failures asked for as well. -/
def AsksForAll (t : Tools) (a : Arguments) (arguments more : List String)
    (rulesVariable : Option String) : Prop :=
  (a.collectAll = false ∧ more = "--collect-all" :: arguments) ∨
    t.call more rulesVariable = .ok a.collecting

theorem AsksForAll.call {rulesVariable : Option String}
    (h : t.AsksForAll a arguments more rulesVariable) (ht : t.Documented)
    (hcall : t.call arguments rulesVariable = .ok a) :
    t.call more rulesVariable = .ok a.collecting := by
  obtain ⟨hnot, rfl⟩ | hmore := h
  · exact ht.collectAll_front hcall hnot
  · exact hmore

section

variable (hrules : t.load files.read a.rules = .ok definitions)
  (hconfig : t.load files.read a.config = .ok config)

include hrules hconfig

variable (hcall : t.call arguments (vars.lookup "CHECKER_RULES") = .ok a)

include hcall

end

end Tools

end CommandLine

end ConfigRules
