import ConfigRules.Condition.Fault

/-!
Deciding formulas on a configuration. `and` and `or` look at their right sides only when the left
ones leave them open, and a membership looks at its elements only up to the first equal one.
-/

namespace ConfigRules

/-- The value of another kind that a number stands for. A float becomes an integer only without a
fraction and from `-2 ^ 63` to `2 ^ 63`, where the last one counts as the greatest integer. -/
def Scalar.convertTo? (k : Kind) (v : Scalar) : Option Scalar :=
  match k, v with
  | .int, .int n => some (.int n)
  | .int, .float (.finite x) =>
    if x.IsWhole ∧ -2 ^ 63 ≤ x.truncate ∧ x.truncate ≤ 2 ^ 63 then
      some (.int (Int64.ofInt (min x.truncate (2 ^ 63 - 1))))
    else none
  | .float, .int n => some (.float (.ofInt n.toInt))
  | .float, .float x => some (.float x)
  | .str, .str s => some (.str s)
  | _, _ => none

/-- How two values of one kind compare, if they do. -/
def Scalar.compare? : Scalar → Scalar → Option Ordering
  | .int a, .int b => some (compare a.toInt b.toInt)
  | .float x, .float y => x.compare? y
  | .str s, .str t => some (compare s t)
  | _, _ => none

namespace Condition

namespace Relation

/-- Values of this kind may stand in the relation. -/
def Accepts (r : Relation) : Kind → Prop
  | .int | .float => True
  | .str => r.isOrdering = false
  | _ => False

instance (r : Relation) (k : Kind) : Decidable (r.Accepts k) := by
  cases k <;> unfold Accepts <;> infer_instance

/-- The relation holds of two values that compare in some way. Values that do not compare are
different, and no other relation holds of them. -/
def holds (r : Relation) (order : Option Ordering) : Bool :=
  match r, order with
  | .ne, none => true
  | _, none => false
  | .eq, some o => o.isEq
  | .ne, some o => o.isNe
  | .lt, some o => o.isLT
  | .gt, some o => o.isGT
  | .le, some o => o.isLE
  | .ge, some o => o.isGE

end Relation

namespace Formula

/-- The value of an item. -/
def resolve (config : Config) (path : Path) (position : Nat) : Except Fault Scalar :=
  match path.get? config with
  | none | some .null => .error (.unresolved path position)
  | some v =>
    match Scalar.ofJson? v with
    | some value => .ok value
    | none => .error (.mismatch (.notScalar path position))

/-- The value of an operand. -/
def value (config : Config) : Formula → Except Fault Scalar
  | number n _ => .ok n.toScalar
  | text s _ => .ok (.str s)
  | item path position => resolve config path position
  | f => .error (.mismatch (.notOperand f))

/-- The relation holds between two operands. They must be of one kind. -/
def relates (config : Config) (r : Relation) (f g : Formula) : Except Fault Bool := do
  let left ← f.value config
  let right ← g.value config
  if left.kind ≠ right.kind then
    .error (.mismatch (.mixedKinds left r right g.place))
  else if r.Accepts left.kind then
    return r.holds (left.compare? right)
  else
    .error (.mismatch (.unrelated r left.kind f.place))

/-- Some element, converted to the subject's kind, equals the subject. -/
def anyEqual (config : Config) (subject : Scalar) : List Formula → Except Fault Bool
  | [] => .ok false
  | f :: fs => do
    let element ← f.value config
    match element.convertTo? subject.kind with
    | none => .error (.mismatch (.inconvertible element subject.kind f.place))
    | some converted =>
      if converted.equal subject then return true else anyEqual config subject fs

/-- The subject is among the elements. -/
def isMember (config : Config) (f : Formula) (elements : List Formula) : Except Fault Bool := do
  let subject ← f.value config
  match subject.kind with
  | .int | .float | .str => anyEqual config subject elements
  | _ => .error (.mismatch (.unlisted subject f.place))

/-- The formula holds on a configuration. -/
def holds (config : Config) : Formula → Except Fault Bool
  | truth b => .ok b
  | item path position => do
    match ← resolve config path position with
    | .bool b => return b
    | v => .error (.mismatch (.notTruth path v position))
  | not f => do return !(← f.holds config)
  | and f g => do
    if ← f.holds config then g.holds config else return false
  | or f g => do
    if ← f.holds config then return true else g.holds config
  | compare r f g => relates config r f g
  | member f negated elements => do return (← isMember config f elements) != negated
  | f => .error (.mismatch (.notCondition f))

end Formula

end Condition

end ConfigRules
