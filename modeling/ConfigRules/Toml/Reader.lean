import ConfigRules.Text.Mark
import ConfigRules.Toml.Number
import ConfigRules.Toml.Table
import ConfigRules.Toml.Token

/-!
Reading TOML documents. A line heads a table or gives a value to a key, and lists and tables between
braces may go on over several lines. The tokens drive a machine that takes one of them at a time and
either goes on or refuses the document.
-/

namespace ConfigRules.Toml

/-- What waits for a value. -/
inductive Frame where
  /-- The key of a line. -/
  | line (path : List String)
  /-- A list with the items so far, the last one first. -/
  | list (done : List Node)
  /-- A table between braces with the entries so far, and the key for the value. -/
  | braces (done : Entries) (path : List String)

/-- What a key is for. -/
inductive Purpose where
  | header
  /-- The header of one table of a list. -/
  | listHeader
  | pair
deriving DecidableEq

/-- What may come next. -/
inductive Phase where
  /-- A line begins. -/
  | line
  /-- A first bracket has begun a header. -/
  | bracket
  /-- A part of a key. -/
  | part (purpose : Purpose) (path : List String)
  /-- A dot, or what ends the key. -/
  | keyEnd (purpose : Purpose) (path : List String)
  /-- The second bracket that ends the header of a list. -/
  | secondBracket (path : List String)
  | lineEnd
  /-- A first part of a key between braces, or the brace that closes. -/
  | pair
  | equals (path : List String)
  | value
  /-- An item of a list, or the bracket that closes it. -/
  | item
  /-- A value without quotes may go on. -/
  | plain (s : String)
  /-- A value is complete. -/
  | after (v : Node)

structure Reader where
  entries : Entries
  /-- The table that lines now add to. -/
  current : List String
  frames : List Frame
  phase : Phase

namespace Reader

/-- How many lists and braces may stand inside one another. -/
def maxDepth : Nat := 80

/-- How many parts a key may have. -/
def maxParts : Nat := 80

def initial : Reader := ⟨[], [], [], .line⟩

def goOn (r : Reader) (phase : Phase) : Option Reader := some { r with phase }

/-- The part of a key that a token stands for. -/
def part? : Token → Option String
  | .bare s => if s.contains '+' then none else some s
  | .text s => some s
  | _ => none

/-- A header has ended. -/
def head? (r : Reader) (opened? : Option Node → Option Node) (path : List String) :
    Option Reader := do
  return ⟨← r.entries.head? opened? path, path, r.frames, .lineEnd⟩

/-- A key has ended and its value comes. -/
def await (r : Reader) (path : List String) : Option Reader :=
  match r.frames with
  | .braces done _ :: frames =>
    some { r with frames := .braces done path :: frames, phase := .value }
  | frames => some { r with frames := .line path :: frames, phase := .value }

/-- A list or a table between braces begins. -/
def nest? (r : Reader) (frame : Frame) (phase : Phase) : Option Reader :=
  if r.frames.length ≤ maxDepth then some { r with frames := frame :: r.frames, phase } else none

/-- A value begins. -/
def begin? (r : Reader) : Token → Option Reader
  | .text s | .longText s => r.goOn (.after (.leaf (.text s)))
  | .bare s => r.goOn (.plain s)
  | .openBracket => r.nest? (.list []) .item
  | .openBrace => r.nest? (.braces [] []) .pair
  | _ => none

/-- A value is complete, and a token other than spaces comes after it. -/
def continue? (r : Reader) (v : Node) (t : Token) : Option Reader :=
  match r.frames, t with
  | .line path :: frames, .newLine => do
    let entries ← r.entries.within? (·.assign? v path) r.current
    return { r with entries, frames, phase := .line }
  | .list _ :: _, .newLine | .braces .. :: _, .newLine => r.goOn (.after v)
  | .list done :: frames, .comma =>
    some { r with frames := .list (v :: done) :: frames, phase := .item }
  | .list done :: frames, .closeBracket =>
    some { r with frames, phase := .after (.list false (v :: done).reverse) }
  | .braces done path :: frames, .comma => do
    return { r with frames := .braces (← done.assign? v path) [] :: frames, phase := .pair }
  | .braces done path :: frames, .closeBrace => do
    return { r with frames, phase := .after (.table .closed (← done.assign? v path)) }
  | _, _ => none

/-- Takes a token where a part of a key may come. -/
def stepPart (r : Reader) (purpose : Purpose) (path : List String) (t : Token) : Option Reader := do
  let part ← part? t
  if path.length < maxParts then r.goOn (.keyEnd purpose (path ++ [part])) else none

/-- Takes a token after a part of a key. Between braces a line may end before the equals sign. -/
def stepKeyEnd (r : Reader) (purpose : Purpose) (path : List String) (t : Token) : Option Reader :=
  match purpose, t with
  | _, .dot => r.goOn (.part purpose path)
  | .header, .closeBracket => r.head? Node.headed? path
  | .listHeader, .closeBracket => r.goOn (.secondBracket path)
  | .pair, .equals => r.await path
  | .pair, .newLine => if r.frames.isEmpty then none else r.goOn (.equals path)
  | _, _ => none

/-- Takes a token other than spaces. -/
def stepVisible (r : Reader) (t : Token) : Option Reader :=
  match r.phase, t with
  | .line, .newLine | .pair, .newLine | .item, .newLine | .equals _, .newLine => some r
  | .value, .newLine => if r.frames.length = 1 then none else some r
  | .line, .openBracket => r.goOn .bracket
  | .bracket, .openBracket => r.goOn (.part .listHeader [])
  | .bracket, t => r.stepPart .header [] t
  | .line, t => r.stepPart .pair [] t
  | .part purpose path, t => r.stepPart purpose path t
  | .keyEnd purpose path, t => r.stepKeyEnd purpose path t
  | .secondBracket path, .closeBracket => r.head? Node.listed? path
  | .lineEnd, .newLine => r.goOn .line
  | .pair, .closeBrace =>
    match r.frames with
    | .braces done _ :: frames => some { r with frames, phase := .after (.table .closed done) }
    | _ => none
  | .pair, t => r.stepPart .pair [] t
  | .equals path, .equals => r.await path
  | .item, .closeBracket =>
    match r.frames with
    | .list done :: frames =>
      some { r with frames, phase := .after (.list false done.reverse) }
    | _ => none
  | .value, t | .item, t => r.begin? t
  | .plain s, .dot => r.goOn (.plain (s ++ "."))
  | .plain s, .bare more => r.goOn (.plain (s ++ more))
  | .plain s, t => do r.continue? (.leaf (← plain? s)) t
  | .after v, t => r.continue? v t
  | _, _ => none

/-- Takes one token. Spaces end a value without quotes, may not part the two brackets of a list's
header, and do not count elsewhere. -/
def step? (r : Reader) (t : Token) : Option Reader :=
  match r.phase, t with
  | .plain s, .blank => do r.goOn (.after (.leaf (← plain? s)))
  | .bracket, .blank => r.goOn (.part .header [])
  | .secondBracket _, .blank => none
  | _, .blank => some r
  | _, t => r.stepVisible t

/-- The entries read, if nothing is open. -/
def result? (r : Reader) : Option Entries :=
  match r.phase with
  | .line => some r.entries
  | _ => none

end Reader

/-- A carriage return stands somewhere without a line feed after it. -/
def hasStrayReturn : List Char → Bool
  | [] => false
  | '\r' :: cs => cs.head? != some '\n' || hasStrayReturn cs
  | _ :: cs => hasStrayReturn cs

/-- The top entries of a document. -/
def parse? (text : List Char) : Option Settings.Tree.Entries := do
  let cs := Text.dropMark text
  if hasStrayReturn cs then none
  else
    let tokens ← Token.all? cs
    let reader ← (tokens ++ [Token.newLine]).foldlM Reader.step? .initial
    return Node.entryTrees (← reader.result?)

end ConfigRules.Toml
