import Enclose.Diagnostic

/-!
Why a text was not transformed, and how that is told to the caller.
-/

namespace Enclose

inductive Failure where
  | syntaxErrors (diagnostics : List Diagnostic)
  | tooDeep (diagnostic : Diagnostic)
  | unsupported (construct : String)
  | codeGeneration (reason : String)
  | internal (reason : String)
  deriving Repr, DecidableEq, Inhabited

namespace Failure

def kind : Failure → String
  | syntaxErrors _ => "syntax_error"
  | tooDeep _ => "too_deep"
  | unsupported _ => "unsupported"
  | codeGeneration _ => "internal_error"
  | internal _ => "internal_error"

def message : Failure → String
  | syntaxErrors ds => toString ds.length ++ " syntax error(s) in source"
  | tooDeep d => d.text
  | unsupported construct => "unsupported construct: " ++ construct
  | codeGeneration reason => "code generation failed: " ++ reason
  | internal reason => "internal transform error: " ++ reason

def lines (texts : List String) : String :=
  texts.foldr (fun text rest => text ++ "\n" ++ rest) ""

def report : Failure → String
  | syntaxErrors ds => lines (ds.map Diagnostic.text)
  | tooDeep d => lines [d.text]
  | failure => lines [sourceName ++ ": error: " ++ failure.message]

def diagnostics : Failure → List Diagnostic
  | syntaxErrors ds => ds
  | tooDeep d => [d]
  | _ => []

end Failure

end Enclose
