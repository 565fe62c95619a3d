import ConfigRules.Error

/-!
Requirements from their definitions. The entries of a definition are values with requirements of
their own, and are held against them in the same way.
-/

namespace ConfigRules.Requirement

def existsKey : String := "exists"
def typeKey : String := "type"
def allowedKey : String := "allowed"
def defaultKey : String := "default"

/-- The keys that a definition may have. -/
def keys : List String := [existsKey, typeKey, allowedKey, defaultKey]

/-- What is required of the entry `exists`. -/
def ofExists : Requirement :=
  ⟨true, .bool, some (.values [.bool true, .bool false]), none⟩

/-- What is required of the entry `type`. -/
def ofType : Requirement :=
  ⟨true, .type, some (.values [.type .int, .type .float, .type .str]), none⟩

/-- Holds an entry of a rule's definition against a requirement. -/
def checkEntry (rule key : String) (r : Requirement) (raw : Option Json) :
    Except Error (Option Scalar) :=
  match r.check (rule ++ "." ++ key) raw with
  | .ok v => .ok v
  | .error v => .error (.badRule rule (.value v))

def readKind (rule : String) (entries : Json.Members) : Except Error Kind := do
  match ← checkEntry rule typeKey ofType (entries.get? typeKey) with
  | some (.type k) => return k
  | _ => .error (.badRule rule (.missingKey typeKey))

def readPresent (rule : String) (entries : Json.Members) : Except Error Bool := do
  match ← checkEntry rule existsKey ofExists (entries.get? existsKey) with
  | some (.bool b) => return b
  | _ => .error (.badRule rule (.missingKey existsKey))

/-- The parts of a text between its commas, without white space around them. -/
def listed (text : String) : List Json :=
  (Text.split ',' text.toList).map fun part => .string (String.ofList (Text.trimChars part))

/-- Values that must all be of the rule's kind. -/
def readValues (rule : String) (k : Kind) (candidates : List Json) : Except Error Allowed := do
  let vs ← candidates.mapM fun raw => checkEntry rule allowedKey (anyOf k) (some raw)
  return .values (vs.filterMap id)

/-- The allowed values: an interval in a text, the values listed in a text that is no interval, the
values of an array, or else a single value. -/
def readAllowed (rule : String) (k : Kind) (raw : Json) : Except Error Allowed :=
  match raw with
  | .string text =>
    match Interval.parse text with
    | .ok i => if i.kind = k then .ok (.interval i) else .error (.badRule rule (.intervalKind i k))
    | .error (.malformed _) => readValues rule k (listed text)
    | .error (.invalid lower upper defect) => .error (.badInterval lower upper defect)
  | .array vs => readValues rule k vs
  | v => readValues rule k [v]

/-- The fallback, which must itself be of the kind and among the allowed values. -/
def readFallback (rule : String) (k : Kind) (allowed : Option Allowed) (raw : Json) :
    Except Error (Option Scalar) :=
  checkEntry rule defaultKey ⟨true, k, allowed, none⟩ (some raw)

/-- The requirement that the entries of a rule's definition describe. -/
def define (rule : String) (entries : Json.Members) : Except Error Requirement := do
  if let some (key, _) := entries.find? fun (key, _) => key ∉ keys then
    .error (.badRule rule (.illegalKey key))
  let k ← readKind rule entries
  let present ← readPresent rule entries
  let allowed ← (entries.get? allowedKey).mapM (readAllowed rule k)
  let fallback ← (entries.get? defaultKey).mapM (readFallback rule k allowed)
  return ⟨present, k, allowed, fallback.join⟩

end ConfigRules.Requirement
