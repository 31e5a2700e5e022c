import Enclose.Script.Parser.ModuleItem

/-!
Reading a text as a module or as a script.

The productions of the language refer to each other. They are tied together by a bound on how deep
they are nested, which the length of the text gives: between two steps that take no character there
are only a few productions.
-/

namespace Enclose.Script.Parser

def grammar : Nat → Grammar
  | 0 =>
    { assignment := raise ⟨0, .endOfText⟩
      unary := raise ⟨0, .endOfText⟩
      operators := fun _ _ _ => raise ⟨0, .endOfText⟩
      member := raise ⟨0, .endOfText⟩
      binding := raise ⟨0, .endOfText⟩
      statement := fun _ => raise ⟨0, .endOfText⟩ }
  | depth + 1 =>
    { assignment := .delay fun _ => assignmentExpr (grammar depth)
      unary := .delay fun _ => unaryExpr (grammar depth)
      operators := fun minPrecedence left start =>
        .delay fun _ => operatorsExpr (grammar depth) minPrecedence left start
      member := .delay fun _ => memberExpr (grammar depth)
      binding := .delay fun _ => bindingTarget (grammar depth)
      statement := fun includeDecl => .delay fun _ => statementOrDecl (grammar depth) includeDecl }

structure Outcome (α : Type) where
  value : Option α
  problems : List Problem

def Outcome.clean? {α : Type} (o : Outcome α) : Option α :=
  if o.problems.isEmpty then o.value else none

def run {α : Type} (p : Grammar → Parse α) (context : Context) (text : List Char) :
    Outcome (Option String × α) :=
  let start : Lexer.Cursor := ⟨text, 0⟩
  let (hashbang, cursor) :=
    match Lexer.readHashbang start with
    | some (line, rest) => (some line, rest)
    | none => (none, start)
  let limit := 8 * (text.length + 4)
  match (p (grammar limit)).run { cursor, context, limit } with
  | .ok a s => ⟨some (hashbang, a), s.problems.reverse⟩
  | .error problem s => ⟨none, s.problems.reverse ++ [problem]⟩

end Parser

def Module.parse (text : List Char) : Parser.Outcome Module :=
  let o := Parser.run
    (fun g => Parser.items (Parser.moduleItem g) fun item =>
      match item with
      | .stmt s => Parser.isUseStrict s
      | _ => false)
    { isModule := true, strict := true } text
  { value := o.value.map fun (hashbang, items) => { hashbang, items }, problems := o.problems }

def ScriptText.parse (text : List Char) : Parser.Outcome ScriptText :=
  let o := Parser.run (fun g => Parser.items (Parser.scriptItem g) Parser.isUseStrict) {} text
  { value := o.value.map fun (hashbang, body) => { hashbang, body }, problems := o.problems }

/-- Read a text as a module or, if there is anything to complain about in that, as a script. If
there is also in that, the complaints about the module count. -/
def Program.parse (text : List Char) : Except (List Problem) Program :=
  let asModule := Module.parse text
  match asModule.clean? with
  | some m => .ok (.module m)
  | none =>
    match (ScriptText.parse text).clean? with
    | some s => .ok (.script s)
    | none => .error asModule.problems

end Enclose.Script
