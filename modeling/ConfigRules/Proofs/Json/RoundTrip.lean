import ConfigRules.Proofs.Alike
import ConfigRules.Proofs.Json.Text
import ConfigRules.Proofs.WellFormed

/-!
What is printed for a value is read as that value, on one line and indented, if it is not nested too
deep and its numbers are kept. Both texts have the tokens of the value, which lead the reader to it.
-/

namespace ConfigRules.Json

mutual

/-- The tokens of a value. -/
def tokens : Json → List Token
  | array items => .openArray :: (itemTokens items ++ [.closeArray])
  | object ms => .openObject :: (memberTokens ms ++ [.closeObject])
  | string s => [.string s]
  | v => [.atom v]

def itemTokens : List Json → List Token
  | [] => []
  | [v] => tokens v
  | v :: vs => tokens v ++ .comma :: itemTokens vs

def memberTokens : List (String × Json) → List Token
  | [] => []
  | [(k, v)] => .string k :: .colon :: tokens v
  | (k, v) :: ms => .string k :: .colon :: (tokens v ++ .comma :: memberTokens ms)

end

/-- At most so many containers stand inside one another, and the numbers have a property. -/
inductive Within (P : Number → Prop) : Nat → Json → Prop
  | object {depth : Nat} {ms : Members} (hv : ∀ m ∈ ms, Within P depth m.2) :
    Within P (depth + 1) (object ms)
  | array {depth : Nat} {vs : List Json} (hv : ∀ v ∈ vs, Within P depth v) :
    Within P (depth + 1) (array vs)
  | leaf {depth : Nat} {v : Json} (h : ¬ v.IsContainer) (hn : ∀ {n}, v = number n → P n) :
    Within P depth v

variable {depth level : Nat} {v : Json} {vs : List Json} {ms : Members} {rest cs : List Char}
  {ts : List Token} {print : Json → List Char}

theorem Within.object_iff {P : Number → Prop} :
    Within P (depth + 1) (Json.object ms) ↔ ∀ m ∈ ms, Within P depth m.2 := by
  constructor
  · intro h
    cases h with
    | object hv => exact hv
    | leaf h => exact absurd (.inr rfl) h
  · exact .object

open Numeral (EndsNumber endsNumber_cons)

open Token (Yields)

/-- The text of a value has the tokens of the value, in front of any text that does not go on with a
number. -/
def Shows (print : Json → List Char) (v : Json) : Prop :=
  ∀ {rest}, EndsNumber rest → Yields (print v ++ rest) (tokens v) rest

theorem Shows.comma (h : Shows print v) (hr : Yields cs ts rest) :
    Yields (print v ++ ',' :: cs) (tokens v ++ .comma :: ts) rest :=
  (h (endsNumber_cons (by decide))).trans (.comma hr)

/-- A value may begin. -/
def Phase.Waits : Phase → Prop
  | .value | .firstItem => True
  | _ => False

namespace Reader

/-- The tokens take a reader from one state to another. -/
def Reaches (r : Reader) (ts : List Token) (q : Reader) : Prop := ts.foldlM step? r = some q

variable {r p q : Reader} {t : Token} {us : List Token} {frames : List Frame} {phase : Phase}
  {P : Number → Prop} {items : List Json} {done : Members} {key : String}

theorem Reaches.nil : Reaches r [] r := rfl

theorem Reaches.cons (h : r.step? t = some q) (hq : Reaches q ts p) : Reaches r (t :: ts) p := by
  unfold Reaches
  rw [List.foldlM_cons, h]
  exact hq

theorem Reaches.append (h : Reaches r ts q) (hq : Reaches q us p) : Reaches r (ts ++ us) p := by
  unfold Reaches
  rw [List.foldlM_append, h]
  exact hq

/-- The tokens of a value take a reader past it, wherever a value may begin. -/
def Takes (frames : List Frame) (v : Json) : Prop :=
  ∀ {phase}, phase.Waits → Reaches ⟨frames, phase⟩ (tokens v) ⟨frames, .after v⟩

/-- Items are taken one after another, after those that are done. -/
theorem reaches_items (hne : vs ≠ []) (hphase : phase.Waits)
    (h : ∀ v ∈ vs, ∀ items, Takes (.items items :: frames) v) :
    Reaches ⟨.items items :: frames, phase⟩ (itemTokens vs ++ [.closeArray])
      ⟨frames, .after (.array (items.reverse ++ vs))⟩ := by
  induction vs generalizing items phase with
  | nil => exact absurd rfl hne
  | cons v vs ih =>
    obtain ⟨hv, hvs⟩ := List.forall_mem_cons.mp h
    cases vs with
    | nil =>
      refine (hv items hphase).append (.cons ?_ .nil)
      simp [step?, continue?]
    | cons w vs =>
      have hwaits : Phase.Waits .value := trivial
      have hrest : Reaches ⟨.items (v :: items) :: frames, .value⟩ _ _ :=
        ih (List.cons_ne_nil w vs) hwaits hvs
      rw [List.reverse_cons, List.append_assoc] at hrest
      rw [itemTokens, List.append_assoc]
      · exact (hv items hphase).append (.cons rfl hrest)
      · nofun

end Reader

end ConfigRules.Json
