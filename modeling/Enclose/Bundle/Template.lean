import Enclose.Bundle.Marker
import Enclose.Bundle.Prologue
import Enclose.Script.Parser

/-!
The call that encloses a module, where the text that receives its exports is no plain path.

The text may be anything: a pattern, a longer expression, several statements, or no program text at
all. It is put in front of the call as it is, and the whole is read as a module, with the marker in
the place of the statements.
-/

namespace Enclose.Bundle.Template

open Script

def head : List String → String
  | [] => ""
  | first :: rest => opening ("var " ++ first) first rest
where
  opening (target path : String) : List String → String
    | [] => target ++ " = "
    | part :: rest =>
      let next := path ++ "." ++ part
      target ++ " = " ++ path ++ " || \x7b\x7d;\n" ++ opening next next rest

def helpers (l : Lowered) : String :=
  (if l.hasExports then "var __defProp = Object.defineProperty;\n" else "") ++
  (if l.exports.isEmpty then "" else
    "var __export = (target, all) => \x7b\n" ++
    "  for (var name in all) " ++
    "__defProp(target, name, \x7b get: all[name], enumerable: true \x7d);\n" ++
    "\x7d;\n") ++
  (if l.reExports then
    "var __reExport = (target, mod) => \x7b\n" ++
    "  for (const key in mod)\n" ++
    "    if (key !== \"default\" && !Object.prototype.hasOwnProperty.call(target, key))\n" ++
    "      __defProp(target, key, \x7b get: () => mod[key], enumerable: true \x7d);\n" ++
    "  return target;\n" ++
    "\x7d;\n"
  else "") ++
  (if l.importDefault then
    "var __importDefault = (mod) => mod && mod.__esModule ? mod.default : mod;\n"
  else "")

def exportsObject (l : Lowered) : String :=
  if l.hasExports then
    "var __exports = \x7b\x7d;\n" ++
    "__defProp(__exports, \"__esModule\", \x7b value: true \x7d);\n" ++
    if l.exports.isEmpty then "" else
      "__export(__exports, \x7b\n" ++
      ",\n".intercalate
        (l.exports.map fun e => "  " ++ Text.json e.name ++ ": () => " ++ e.getter.text) ++
      "\n\x7d);\n"
  else ""

def text (path : List String) (l : Lowered) : String :=
  head path ++ "(() => \x7b\n" ++ helpers l ++ exportsObject l ++ marker ++ ";\n" ++
    (if l.hasExports then "return __exports;\n" else "") ++ "\x7d)();\n"

def brokenCode (problems : List Problem) (text : List Char) : Failure :=
  let first := (Diagnostic.arrange (problems.map (·.diagnostic text))).head?
  .internal ("generated code failed to parse: " ++ (first.map (·.message)).getD "")

def read (path : List String) (l : Lowered) : Except Failure (List ModuleItem) :=
  let text := (text path l).toList
  let parsed := Module.parse text
  match parsed.clean? with
  | some m => .ok m.items
  | none => .error (brokenCode parsed.problems text)

end Enclose.Bundle.Template
