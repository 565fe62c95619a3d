import ConfigRules.Json.Token

/-!
Reading JSON text. The tokens drive a machine that keeps the containers around its place; it takes
one token at a time and either goes on or refuses the text.
-/

namespace ConfigRules.Json

/-- A container part way through, waiting for a value. -/
inductive Frame where
  /-- The items so far, the last one first. -/
  | items (done : List Json)
  | members (done : Members) (key : String)

/-- What may come next. -/
inductive Phase where
  | value
  /-- A first item or the end of the array. -/
  | firstItem
  /-- A first key or the end of the object. -/
  | firstKey
  | key (done : Members)
  | colon (done : Members) (key : String)
  /-- A value is complete. -/
  | after (v : Json)

structure Reader where
  frames : List Frame
  phase : Phase

namespace Reader

/-- How many containers may stand inside one another. -/
def maxDepth : Nat := 127

/-- A value begins. -/
def begin? (frames : List Frame) : Token → Option Reader
  | .openArray => if frames.length < maxDepth then some ⟨.items [] :: frames, .firstItem⟩ else none
  | .openObject => if frames.length < maxDepth then some ⟨frames, .firstKey⟩ else none
  | .string s => some ⟨frames, .after (.string s)⟩
  | .atom v => some ⟨frames, .after v⟩
  | _ => none

/-- A value has ended within its container. -/
def continue? (v : Json) : List Frame → Token → Option Reader
  | .items done :: frames, .comma => some ⟨.items (v :: done) :: frames, .value⟩
  | .items done :: frames, .closeArray => some ⟨frames, .after (.array (v :: done).reverse)⟩
  | .members done key :: frames, .comma => some ⟨frames, .key (done.put key v)⟩
  | .members done key :: frames, .closeObject => some ⟨frames, .after (.object (done.put key v))⟩
  | _, _ => none

def step? (r : Reader) (t : Token) : Option Reader :=
  match r.phase, t with
  | .value, t => begin? r.frames t
  | .firstItem, .closeArray => some ⟨r.frames.tail, .after (.array [])⟩
  | .firstItem, t => begin? r.frames t
  | .firstKey, .closeObject => some ⟨r.frames, .after (.object [])⟩
  | .firstKey, .string key => some ⟨r.frames, .colon [] key⟩
  | .key done, .string key => some ⟨r.frames, .colon done key⟩
  | .colon done key, .colon => some ⟨.members done key :: r.frames, .value⟩
  | .after v, t => continue? v r.frames t
  | _, _ => none

/-- The value read, if nothing is open. -/
def result? : Reader → Option Json
  | ⟨[], .after v⟩ => some v
  | _ => none

end Reader

/-- The value that tokens make. -/
def ofTokens? (tokens : List Token) : Option Json := do
  let reader ← tokens.foldlM Reader.step? ⟨[], .value⟩
  reader.result?

/-- The value of a JSON text. -/
def parse? (text : String) : Option Json := do ofTokens? (← Token.all? text.toList)

end ConfigRules.Json
