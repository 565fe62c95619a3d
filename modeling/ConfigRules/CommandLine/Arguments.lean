/-!
The arguments of the command line.
-/

namespace ConfigRules.CommandLine

structure Arguments where
  rules : String
  config : String
  output : Option String
  report : Option String
  collectAll : Bool
  pretty : Bool
deriving DecidableEq

/-- What a call asks for. -/
inductive Invocation where
  | check (a : Arguments)
  | help
  | version
deriving DecidableEq

inductive UsageError where
  | unknown (argument : String)
  | surplus (argument : String)
  | repeated (argument : String)
  | missingValue (argument : String)
  | unexpectedValue (argument : String)
  | missing (argument : String)
deriving DecidableEq

namespace UsageError

def message : UsageError → String
  | unknown argument => "unexpected argument '" ++ argument ++ "' found"
  | surplus argument => "unexpected argument '" ++ argument ++ "' found"
  | repeated argument => "the argument '" ++ argument ++ "' cannot be used multiple times"
  | missingValue argument => "a value is required for '" ++ argument ++ "' but none was supplied"
  | unexpectedValue argument => "unexpected value for '" ++ argument ++ "'"
  | missing argument => "the argument '" ++ argument ++ "' was not provided"

end UsageError

/-- Options, which take a value. -/
inductive Opt where
  | rules | output | report
deriving DecidableEq

/-- Switches, which take none. -/
inductive Switch where
  | collectAll | pretty | help | version
deriving DecidableEq

def longOption? : String → Option (Opt ⊕ Switch)
  | "rules" => some (.inl .rules)
  | "output" => some (.inl .output)
  | "report" => some (.inl .report)
  | "collect-all" => some (.inr .collectAll)
  | "pretty" => some (.inr .pretty)
  | "help" => some (.inr .help)
  | "version" => some (.inr .version)
  | _ => none

def shortOption? : Char → Option (Opt ⊕ Switch)
  | 'r' => some (.inl .rules)
  | 'o' => some (.inl .output)
  | 'h' => some (.inr .help)
  | 'V' => some (.inr .version)
  | _ => none

/-- The arguments that have been read so far. -/
structure Draft where
  rules : Option String
  config : Option String
  output : Option String
  report : Option String
  collectAll : Bool
  pretty : Bool

/-- Why reading stops before the last argument. -/
inductive Stop where
  | usage (e : UsageError)
  | help
  | version

namespace Draft

def empty : Draft := ⟨none, none, none, none, false, false⟩

/-- A place for one value, which must be free, and a value, which must not be empty. -/
def fill (argument : String) (place : Option String) (value : String) :
    Except Stop (Option String) :=
  if value = "" then .error (.usage (.missingValue argument))
  else if place.isSome then .error (.usage (.repeated argument))
  else .ok (some value)

def setOption (d : Draft) (argument value : String) : Opt → Except Stop Draft
  | .rules => do return { d with rules := ← fill argument d.rules value }
  | .output => do return { d with output := ← fill argument d.output value }
  | .report => do return { d with report := ← fill argument d.report value }

def setSwitch (d : Draft) (argument : String) : Switch → Except Stop Draft
  | .collectAll =>
    if d.collectAll then .error (.usage (.repeated argument)) else .ok { d with collectAll := true }
  | .pretty =>
    if d.pretty then .error (.usage (.repeated argument)) else .ok { d with pretty := true }
  | .help => .error .help
  | .version => .error .version

/-- Takes an argument that is no option. -/
def setPlain (d : Draft) (argument : String) : Except Stop Draft :=
  if d.config.isSome then .error (.usage (.surplus argument))
  else do return { d with config := ← fill "<CONFIG>" none argument }

end Draft

/-- An argument can be the value of the option before it. -/
def isValue (argument : String) : Bool := argument = "-" || !"-".toList.isPrefixOf argument.toList

/-- How an argument reads on its own. -/
inductive Shape where
  | plain
  /-- Nothing after it is an option. -/
  | divider
  | option (o : Opt) (attached : Option String)
  | switch (s : Switch) (attached : Option String)
  | unknown

def shapeOf (found : Option (Opt ⊕ Switch)) (attached : Option String) : Shape :=
  match found with
  | some (.inl o) => .option o attached
  | some (.inr s) => .switch s attached
  | none => .unknown

/-- A long option may have its value after an equals sign. -/
def longShape (cs : List Char) : Shape :=
  let name := cs.takeWhile (· != '=')
  let attached := (cs.drop name.length).tail?
  shapeOf (longOption? (String.ofList name)) (attached.map String.ofList)

/-- A short option may have its value right behind it, or after an equals sign. Short switches act
at once, whatever is behind them. -/
def shortShape (c : Char) (cs : List Char) : Shape :=
  let attached :=
    match cs with
    | [] => none
    | '=' :: value => some (String.ofList value)
    | value => some (String.ofList value)
  match shortOption? c with
  | some (.inr s) => .switch s none
  | found => shapeOf found attached

def shape (argument : String) : Shape :=
  match argument.toList with
  | ['-', '-'] => .divider
  | '-' :: '-' :: cs => longShape cs
  | '-' :: c :: cs => shortShape c cs
  | _ => .plain

/-- Reads arguments from left to right. -/
def read (d : Draft) : List String → Except Stop Draft
  | [] => .ok d
  | argument :: rest =>
    match shape argument with
    | .plain => do read (← d.setPlain argument) rest
    | .divider => rest.foldlM Draft.setPlain d
    | .unknown => .error (.usage (.unknown argument))
    | .switch s none => do read (← d.setSwitch argument s) rest
    | .switch _ (some _) => .error (.usage (.unexpectedValue argument))
    | .option o (some value) => do read (← d.setOption argument value o) rest
    | .option o none =>
      match rest with
      | value :: rest =>
        if isValue value then do read (← d.setOption argument value o) rest
        else .error (.usage (.missingValue argument))
      | [] => .error (.usage (.missingValue argument))

/-- What the arguments ask for; the rules may come from a variable instead. -/
def invocation (arguments : List String) (rulesVariable : Option String) :
    Except UsageError Invocation :=
  match read .empty arguments with
  | .error .help => .ok .help
  | .error .version => .ok .version
  | .error (.usage e) => .error e
  | .ok d =>
    match d.rules <|> rulesVariable, d.config with
    | some "", _ => .error (.missingValue "--rules <RULES>")
    | some rules, some config =>
      .ok (.check ⟨rules, config, d.output, d.report, d.collectAll, d.pretty⟩)
    | none, _ => .error (.missing "--rules <RULES>")
    | _, none => .error (.missing "<CONFIG>")

end ConfigRules.CommandLine
