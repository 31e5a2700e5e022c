import Enclose.Script.Layout
import Enclose.Script.Printer.Literal
import Enclose.Script.Printer.Spacing

/-!
Programs as text: with a statement on each line, or as short as the tree allows.
-/

namespace Enclose.Script.Printer

open Layout

def unlessShort (minify : Bool) (part : Layout) : Layout := if minify then .empty else part

def gap (minify : Bool) : Layout := unlessShort minify " "

def blankIf (minify needed : Bool) : Layout := if needed then " " else gap minify

def newline (minify : Bool) : Layout := unlessShort minify .line

def commas (minify : Bool) (parts : List Layout) : Layout := joined ("," ++ gap minify) parts

def lines (minify : Bool) (separator : Layout) (parts : List Layout) : Layout :=
  newline minify ++ (nested (joined (separator ++ newline minify) parts) ++ newline minify)

def braced (minify : Bool) (separator : Layout) (parts : List Layout) : Layout :=
  if parts.isEmpty then "\x7b\x7d" else "\x7b" ++ (lines minify separator parts ++ "\x7d")

def bracedLines (minify : Bool) (parts : List Layout) : Layout :=
  if parts.isEmpty then "\x7b" ++ (newline minify ++ "\x7d")
  else "\x7b" ++ (lines minify .empty parts ++ "\x7d")

def bracedInline (minify : Bool) (parts : List Layout) : Layout :=
  if parts.isEmpty then "\x7b\x7d"
  else "\x7b" ++ (gap minify ++ (commas minify parts ++ (gap minify ++ "\x7d")))

def parens (minify : Bool) (parts : List Layout) : Layout := "(" ++ (commas minify parts ++ ")")

def asyncWord (isAsync : Bool) : Layout := if isAsync then "async " else .empty

def star (isGenerator : Bool) : Layout := if isGenerator then "*" else .empty

def templateParts : List String → List Layout → Layout
  | [], _ => .empty
  | [piece], _ => piece
  | piece :: pieces, [] => piece ++ templateParts pieces []
  | piece :: pieces, value :: values =>
    piece ++ ("$\x7b" ++ (value ++ ("\x7d" ++ templateParts pieces values)))

def accessorWord (minify : Bool) (word : String) (key : PropertyKey) : Layout :=
  match key with
  | .privateName _ => word ++ " "
  | _ => word ++ blankIf minify (keyStartsWord key)

def staticWord (minify isStatic wordFollows : Bool) (key : PropertyKey) : Layout :=
  if isStatic then
    match key with
    | .privateName _ => "static "
    | _ => "static" ++ blankIf minify wordFollows
  else .empty

def bareParams (minify : Bool) : List Pattern → Bool
  | [.ident _] => minify
  | _ => false

def arrowHead (minify isAsync : Bool) (params : List Pattern) (parts : List Layout) : Layout :=
  let bare := bareParams minify params
  (if isAsync then "async" ++ blankIf minify bare else .empty) ++
    ((if bare then concat parts else parens minify parts) ++ "=>")

def classHead (name : Option String) : Layout :=
  match name with
  | some name => "class " ++ Layout.text name
  | none => "class"

def functionHead : Function → Layout
  | .mk name isAsync isGenerator _ _ =>
    asyncWord isAsync ++ ("function" ++ (star isGenerator ++
      (match name with | some name => " " ++ Layout.text name | none => .empty)))

def declarationHead (minify : Bool) : Function → Layout
  | .mk name isAsync isGenerator _ _ =>
    asyncWord isAsync ++ ("function" ++
      ((if isGenerator then "*" ++ gap minify else " ") ++ Layout.text (name.getD "")))

inductive Position where
  | plain
  /-- What is called or whose member is taken. Without its arguments, `new` would take those of the
  call. -/
  | head
  | beforePoint
  deriving Repr, DecidableEq, Inhabited

def numberAt (minify : Bool) (position : Position) (raw : String) : String :=
  if position = .beforePoint then numberBeforePoint minify raw else number minify raw

def newArgs (minify : Bool) (position : Position) (args : List Layout) : Layout :=
  if minify && args.isEmpty && position == .plain then .empty else parens minify args

def newHead (minify : Bool) (callee : Expr) (part : Layout) : Layout :=
  "new" ++ (blankIf minify (startsWord callee) ++ part)

def jump (minify : Bool) (word : String) (label : Option String) : Layout :=
  Layout.text word ++
    ((match label with | some label => " " ++ Layout.text label | none => .empty) ++
      (";" ++ newline minify))

def varDecl (minify : Bool) (kind : VarKind) (declarators : List Pattern) (parts : List Layout) :
    Layout :=
  Layout.text kind.text ++ (blankIf minify (startsWithName declarators) ++ commas minify parts)

def block (minify : Bool) (parts : List Layout) : Layout := braced minify .empty parts

def methodWords : Function → Layout
  | .mk _ isAsync isGenerator _ _ => asyncWord isAsync ++ star isGenerator

def methodStartsWord (key : PropertyKey) : Function → Bool
  | .mk _ isAsync isGenerator _ _ => isAsync || (!isGenerator && keyStartsWord key)

def functionTail (minify : Bool) (blank : Layout) (params body : List Layout) : Layout :=
  parens minify params ++ (blank ++ block minify body)

mutual

def expr (minify : Bool) (position : Position) : Expr → Layout
  | .this => "this"
  | .super => "super"
  | .ident name => name
  | .null => "null"
  | .bool value => if value then "true" else "false"
  | .number raw => numberAt minify position raw
  | .bigint raw => bigint minify raw
  | .string lit => stringLit minify lit
  | .regex pattern flags => "/" ++ (Layout.text pattern ++ ("/" ++ Layout.text flags))
  | .array elements =>
    if elements.isEmpty then "[]"
    else
      "[" ++ (newline minify ++
        (nested (joined ("," ++ newline minify) (elementParts minify elements) ++
          (match elements.getLast? with | some .hole => "," ++ gap minify | _ => .empty)) ++
        (newline minify ++ "]")))
  | .object properties => braced minify "," (propertyParts minify properties)
  | .function f => functionHead f ++ callable minify (gap minify) f
  | .arrow isAsync params value =>
    arrowHead minify isAsync params (patternParts minify params) ++
      nested (expr minify .plain value)
  | .arrowBlock isAsync params body =>
    arrowHead minify isAsync params (patternParts minify params) ++
      block minify (stmtParts minify body)
  | .class c => classDef minify c
  | .template quasis values =>
    "`" ++ (templateParts (quasis.map (quasi minify)) (exprParts minify values) ++ "`")
  | .taggedTemplate tag quasis values =>
    expr minify .head tag ++
      ("`" ++ (templateParts (quasis.map (·.raw)) (exprParts minify values) ++ "`"))
  | .unary op inner =>
    Layout.text op.text ++
      ((if op.isWord then blankIf minify (startsWord inner)
        else if signClashes op inner then Layout.text " " else .empty) ++
      expr minify .plain inner)
  | .update op before inner =>
    if before then Layout.text op.text ++ expr minify .plain inner
    else expr minify .plain inner ++ Layout.text op.text
  | .binary op left right =>
    expr minify .plain left ++
      ((if blankBefore minify left op then Layout.text " " else .empty) ++
        (Layout.text op.text ++
          ((if blankAfter minify op right then Layout.text " " else .empty) ++
            expr minify .plain right)))
  | .assign op target value =>
    pattern minify target ++
      (gap minify ++ (Layout.text op.text ++ (gap minify ++ expr minify .plain value)))
  | .conditional test consequent alternate =>
    expr minify .plain test ++ (gap minify ++ ("?" ++ (gap minify ++
      (expr minify .plain consequent ++ (gap minify ++ (":" ++ (gap minify ++
        expr minify .plain alternate)))))))
  | .call callee args => expr minify .head callee ++ parens minify (elementParts minify args)
  | .new callee args =>
    newHead minify callee (expr minify .plain callee) ++
      newArgs minify position (elementParts minify args)
  | .newBare callee => newHead minify callee (expr minify .plain callee)
  | .importCall phase args =>
    "import" ++ ((match phase with | some phase => "." ++ Layout.text phase | none => .empty) ++
      parens minify (elementParts minify args))
  | .member object key =>
    match key with
    | .computed key => expr minify .head object ++ ("[" ++ (expr minify .plain key ++ "]"))
    | key => expr minify .beforePoint object ++ ("." ++ keyPart minify key)
  | .optionalMember short object key =>
    expr minify .head object ++
      (match key with
      | .computed key => (if short then "?.[" else "[") ++ (expr minify .plain key ++ "]")
      | key => (if short then "?." else ".") ++ keyPart minify key)
  | .optionalCall short callee args =>
    expr minify .plain callee ++
      ((if short then Layout.text "?." else .empty) ++ parens minify (elementParts minify args))
  | .sequence exprs => commas minify (exprParts minify exprs)
  | .paren inner => "(" ++ (expr minify .plain inner ++ ")")
  | .yield delegate value =>
    match value with
    | none => "yield"
    | some value =>
      "yield" ++ (star delegate ++
        (blankIf minify (!delegate && startsWord value) ++ expr minify .plain value))
  | .await inner => "await " ++ expr minify .plain inner
  | .newTarget => "new.target"
  | .importMeta => "import.meta"
  | .privateName name => "#" ++ Layout.text name
  | .invalid => .empty

def exprParts (minify : Bool) : List Expr → List Layout
  | [] => []
  | e :: others => expr minify .plain e :: exprParts minify others

def elementParts (minify : Bool) : List Element → List Layout
  | [] => []
  | .hole :: others => .empty :: elementParts minify others
  | .item _ value :: others => expr minify .plain value :: elementParts minify others
  | .spread _ _ value :: others => ("..." ++ expr minify .plain value) :: elementParts minify others

def keyPart (minify : Bool) : PropertyKey → Layout
  | .ident name => name
  | .string lit => stringLit minify lit
  | .number raw => number minify raw
  | .bigint raw => bigint minify raw
  | .privateName name => "#" ++ Layout.text name
  | .computed key => "[" ++ (expr minify .plain key ++ "]")

def callable (minify : Bool) (blank : Layout) : Function → Layout
  | .mk _ _ _ params body =>
    functionTail minify blank (patternParts minify params) (stmtParts minify body)

def propertyParts (minify : Bool) : List Property → List Layout
  | [] => []
  | .shorthand _ name :: others => Layout.text name :: propertyParts minify others
  | .keyed _ key _ value :: others =>
    (keyPart minify key ++ (":" ++ (gap minify ++ expr minify .plain value))) ::
      propertyParts minify others
  | .defaulted _ name value :: others =>
    (Layout.text name ++ ("=" ++ expr minify .plain value)) :: propertyParts minify others
  | .getter _ key f :: others =>
    (accessorWord minify "get" key ++ (keyPart minify key ++ (gap minify ++
      callable minify (gap minify) f))) :: propertyParts minify others
  | .setter _ key f :: others =>
    (accessorWord minify "set" key ++ (keyPart minify key ++ (gap minify ++
      callable minify .empty f))) :: propertyParts minify others
  | .method _ key f :: others =>
    (methodWords f ++ (keyPart minify key ++ (gap minify ++ callable minify (gap minify) f))) ::
      propertyParts minify others
  | .spread _ _ value :: others =>
    ("..." ++ expr minify .plain value) :: propertyParts minify others

def classDef (minify : Bool) : Class → Layout
  | .mk name heritage members =>
    classHead name ++
      ((match heritage with
        | some parent =>
          " extends" ++ (blankIf minify (startsWord parent) ++ expr minify .plain parent)
        | none => .empty) ++
      (gap minify ++ bracedLines minify (memberParts minify members)))

def memberParts (minify : Bool) : List ClassMember → List Layout
  | [] => []
  | .constructor params body :: others =>
    ("constructor" ++
      functionTail minify .empty (patternParts minify params) (stmtParts minify body)) ::
      memberParts minify others
  | .method isStatic key f :: others =>
    (staticWord minify isStatic (methodStartsWord key f) key ++ (methodWords f ++
      (keyPart minify key ++ callable minify (gap minify) f))) :: memberParts minify others
  | .getter isStatic key f :: others =>
    (staticWord minify isStatic true key ++ (accessorWord minify "get" key ++
      (keyPart minify key ++ callable minify (gap minify) f))) :: memberParts minify others
  | .setter isStatic key f :: others =>
    (staticWord minify isStatic true key ++ (accessorWord minify "set" key ++
      (keyPart minify key ++ callable minify (gap minify) f))) :: memberParts minify others
  | .field isStatic key value :: others =>
    ((if isStatic then Layout.text "static " else .empty) ++ (keyPart minify key ++
      ((match value with
        | some value => gap minify ++ ("=" ++ (gap minify ++ expr minify .plain value))
        | none => .empty) ++ ";"))) ::
      memberParts minify others
  | .staticBlock body :: others =>
    ("static" ++ block minify (stmtParts minify body)) :: memberParts minify others
  | .empty :: others => ";" :: memberParts minify others

def pattern (minify : Bool) : Pattern → Layout
  | .ident name => name
  | .array elements =>
    "[" ++ (commas minify (patternParts minify elements) ++
      ((match elements.getLast? with | some .hole => "," ++ gap minify | _ => .empty) ++ "]"))
  | .object properties => bracedInline minify (patternParts minify properties)
  | .hole => .empty
  | .keyed key value => keyPart minify key ++ (":" ++ (gap minify ++ pattern minify value))
  | .shorthand name value =>
    match value with
    | some value =>
      Layout.text name ++ (gap minify ++ ("=" ++ (gap minify ++ expr minify .plain value)))
    | none => name
  | .rest inner => "..." ++ pattern minify inner
  | .defaulted inner value =>
    pattern minify inner ++ (gap minify ++ ("=" ++ (gap minify ++ expr minify .plain value)))
  | .expr target => expr minify .plain target
  | .invalid => .empty

def patternParts (minify : Bool) : List Pattern → List Layout
  | [] => []
  | p :: others => pattern minify p :: patternParts minify others

/-- A statement; it ends its line unless it is a block. -/
def stmt (minify : Bool) : Stmt → Layout
  | .block body => block minify (stmtParts minify body)
  | .empty => ";" ++ newline minify
  | .debugger => "debugger;" ++ newline minify
  | .expr value => expr minify .plain value ++ (";" ++ newline minify)
  | .ifElse test consequent alternate =>
    "if" ++ (gap minify ++ ("(" ++ (expr minify .plain test ++ (")" ++ (gap minify ++
      (stmt minify consequent ++
        ((match alternate with
          | some alternate =>
            (match consequent with | .block _ => gap minify | _ => .empty) ++
              ("else" ++ (blankIf minify (stmtStartsWord alternate) ++ stmt minify alternate))
          | none => .empty) ++
        newline minify)))))))
  | .for init test update body =>
    "for(" ++ (forHead minify init ++ (";" ++
      ((match test with | some test => gap minify ++ expr minify .plain test | none => .empty) ++
      (";" ++
      ((match update with
        | some update => gap minify ++ expr minify .plain update
        | none => .empty) ++
      (")" ++ (stmt minify body ++ newline minify)))))))
  | .forIn head object body =>
    "for(" ++ (forHead minify head ++ (blankIf minify (headEndsWord head) ++
      ("in" ++ (blankIf minify (startsWord object) ++ (expr minify .plain object ++
        (")" ++ (stmt minify body ++ newline minify)))))))
  | .forOf isAwait head object body =>
    (if isAwait then "for await" else "for") ++ (gap minify ++ ("(" ++ (forHead minify head ++
      (blankIf minify (headEndsWord head) ++ ("of" ++ (blankIf minify (startsWord object) ++
        (expr minify .plain object ++ (")" ++ (stmt minify body ++ newline minify)))))))))
  | .while test body =>
    "while(" ++ (expr minify .plain test ++ (")" ++ (stmt minify body ++ newline minify)))
  | .doWhile body test =>
    "do" ++ (blankIf minify (stmtStartsWord body) ++ (stmt minify body ++ ("while" ++
      (gap minify ++ ("(" ++ (expr minify .plain test ++ (")" ++ newline minify)))))))
  | .continue label => jump minify "continue" label
  | .break label => jump minify "break" label
  | .return value =>
    match value with
    | some value =>
      "return" ++ (blankIf minify (startsWord value) ++ (expr minify .plain value ++
        (";" ++ newline minify)))
    | none => "return;" ++ newline minify
  | .with object body =>
    "with" ++ (gap minify ++ ("(" ++ (expr minify .plain object ++
      (")" ++ (stmt minify body ++ newline minify)))))
  | .switch discriminant cases =>
    "switch(" ++ (expr minify .plain discriminant ++ (")" ++
      (bracedLines minify (caseParts minify cases) ++ newline minify)))
  | .labelled label body =>
    Layout.text label ++ (":" ++ (gap minify ++ (stmt minify body ++ newline minify)))
  | .throw value =>
    "throw" ++ (blankIf minify (startsWord value) ++ (expr minify .plain value ++
      (";" ++ newline minify)))
  | .try body param handler finalizer =>
    "try" ++ (gap minify ++ (block minify (stmtParts minify body) ++
      ((match handler with
        | some handler =>
          gap minify ++ ("catch" ++ (gap minify ++
            ((match param with | .hole => .empty | p => "(" ++ (pattern minify p ++ ")")) ++
              (gap minify ++ stmt minify handler))))
        | none => .empty) ++
      ((match finalizer with
        | some finalizer => gap minify ++ ("finally" ++ stmt minify finalizer)
        | none => .empty) ++
      newline minify))))
  | .var kind declarators =>
    varDecl minify kind declarators (patternParts minify declarators) ++ (";" ++ newline minify)
  | .function f => declarationHead minify f ++ (callable minify (gap minify) f ++ newline minify)
  | .class c => classDef minify c ++ newline minify

def forHead (minify : Bool) : ForHead → Layout
  | .nothing => .empty
  | .var kind declarators => varDecl minify kind declarators (patternParts minify declarators)
  | .pattern target => pattern minify target

def stmtParts (minify : Bool) : List Stmt → List Layout
  | [] => []
  | s :: others => stmt minify s :: stmtParts minify others

def caseParts (minify : Bool) : List SwitchCase → List Layout
  | [] => []
  | .mk test body :: others =>
    ((match test with
      | some test =>
        "case" ++ (blankIf minify (startsWord test) ++ (expr minify .plain test ++ ":"))
      | none => "default:") ++
      (newline minify ++ nested (joined (newline minify) (stmtParts minify body)))) ::
      caseParts minify others

end

def moduleName (minify : Bool) : ModuleName → Layout
  | .ident name => name
  | .string lit => stringLit minify lit

def fromPart (minify : Bool) (source : StringLit) : Layout :=
  "from" ++ (gap minify ++ Layout.text (stringLit minify source))

def namedImports (minify : Bool) (specifiers : List ImportSpecifier) : List Layout :=
  specifiers.filterMap fun s =>
    match s with
    | .named (some imported) binding =>
      some (moduleName minify imported ++ (" as " ++ Layout.text binding))
    | .named none binding => some (Layout.text binding)
    | _ => none

def wholeImports (minify : Bool) (specifiers : List ImportSpecifier) : List Layout :=
  specifiers.filterMap fun s =>
    match s with
    | .default binding => some (Layout.text binding)
    | .namespace binding => some ("*" ++ (gap minify ++ ("as " ++ Layout.text binding)))
    | .named _ _ => none

def phaseWord : ImportPhase → Layout
  | .evaluation => .empty
  | .source => " source"
  | .defer => " defer"

def importDecl (minify : Bool) (phase : ImportPhase) (specifiers : List ImportSpecifier)
    (source : StringLit) : Layout :=
  let startsWithName := match specifiers with | .default _ :: _ => true | _ => false
  let whole := wholeImports minify specifiers
  let named := namedImports minify specifiers
  "import" ++ (phaseWord phase ++ (blankIf minify startsWithName ++ (commas minify whole ++
    ((if named.isEmpty then
        if whole.isEmpty then Layout.text (stringLit minify source)
        else " " ++ fromPart minify source
      else
        (if whole.isEmpty then Layout.empty else "," ++ gap minify) ++
          (bracedInline minify named ++ (gap minify ++ fromPart minify source))) ++
    (";" ++ newline minify)))))

def exportName (minify : Bool) : ExportSpecifier → Layout
  | .namespace exported => "*" ++ (gap minify ++ ("as " ++ moduleName minify exported))
  | .named original (some exported) =>
    moduleName minify original ++ (" as " ++ moduleName minify exported)
  | .named original none => moduleName minify original

def isNamespaceExport : List ExportSpecifier → Bool
  | [.namespace _] => true
  | _ => false

def exportList (minify : Bool) (specifiers : List ExportSpecifier) (source : Option StringLit) :
    Layout :=
  let whole := isNamespaceExport specifiers
  let names := specifiers.map (exportName minify)
  let list :=
    if whole then concat names
    else if names.isEmpty then "\x7b" ++ (gap minify ++ "\x7d")
    else bracedInline minify names
  "export" ++ (gap minify ++ (list ++
    ((match source with
      | some source => (if whole then Layout.text " " else gap minify) ++ fromPart minify source
      | none => Layout.empty) ++
    (";" ++ newline minify))))

def moduleItem (minify : Bool) : ModuleItem → Layout
  | .stmt s => stmt minify s
  | .import phase specifiers source => importDecl minify phase specifiers source
  | .exportDecl declaration => "export " ++ stmt minify declaration
  | .exportNamed specifiers source => exportList minify specifiers source
  | .exportFunction f => "export default " ++ (expr minify .plain (.function f) ++ newline minify)
  | .exportClass c => "export default " ++ (classDef minify c ++ newline minify)
  | .exportDefault value =>
    "export default" ++ (blankIf minify (startsWord value) ++
      (expr minify .plain value ++ (";" ++ newline minify)))
  | .exportAll source =>
    "export" ++ (gap minify ++ ("*" ++ (gap minify ++
      (fromPart minify source ++ (";" ++ newline minify)))))

end Printer

def Module.print (minify : Bool) (m : Module) : String :=
  let hashbang : Layout :=
    match m.hashbang with
    | some line => "#!" ++ (Layout.text line ++ Layout.line)
    | none => .empty
  (hashbang ++ Layout.concat (m.items.map (Printer.moduleItem minify))).render

end Enclose.Script
