import ConfigRules.Text.Caret

/-!
Texts that break off their grammar, and where.
-/

namespace ConfigRules

structure SyntaxFault where
  /-- The part of the text that does not fit; none at the end. -/
  token : Option String
  text : String
  position : Nat
deriving DecidableEq

namespace SyntaxFault

/-- The fault at the first character of what is left of a text. -/
def atRest (text : String) (rest : List Char) : SyntaxFault :=
  ⟨rest.head?.map fun c => String.ofList [c], text, text.length - rest.length⟩

/-- The fault at the end of a text. -/
def atEnd (text : String) : SyntaxFault := ⟨none, text, text.length⟩

def message (f : SyntaxFault) : String :=
  let heading :=
    match f.token with
    | some token => "语法错误: 位于 \"" ++ token ++ "\""
    | none => "语法错误: 输入意外结束"
  heading ++ "\n" ++ f.text ++ "\n" ++ Text.caretLine f.text f.position

end SyntaxFault

end ConfigRules
