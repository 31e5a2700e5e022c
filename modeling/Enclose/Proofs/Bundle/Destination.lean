import Enclose.Proofs.Bundle.Pasting
import Enclose.Proofs.Runtime.Path

/-!
# The statements around a call

A path of `n` names receives a call by `n` statements: one for each of its shorter beginnings, which
becomes an object if it is none, and the assignment of the result (`assignPath_cons`). When they are
run, whatever is read a property of is an object by then, and no object is replaced
(`transform_destination`).
-/

namespace Enclose.Bundle
open Script Script.Parser

theorem ne_dot_of_isIdentifier {part : List Char} (identifier : Identifier.isIdentifier part) :
    ∀ c ∈ part, c ≠ '.' := by
  rintro c member rfl
  cases part with
  | nil => cases member
  | cons first rest =>
      simp only [Identifier.isIdentifier, Bool.and_eq_true, List.all_eq_true] at identifier
      obtain ⟨⟨starts, continues⟩, -⟩ := identifier
      rcases List.mem_cons.1 member with rfl | member
      · exact absurd starts (by decide +kernel)
      · exact absurd (continues '.' member) (by decide +kernel)

theorem pathParts_append {part rest next : List Char} {others : List (List Char)}
    (plain : ∀ c ∈ part, c ≠ '.') (parts : Identifier.pathParts rest = next :: others) :
    Identifier.pathParts (part ++ rest) = (part ++ next) :: others := by
  induction part with
  | nil => exact parts
  | cons c part ih =>
      have inner := ih fun d member => plain d (List.mem_cons_of_mem c member)
      rw [List.cons_append, Identifier.pathParts, inner]
      exact if_neg (plain c List.mem_cons_self)

theorem pathParts_intercalate {part : List Char} {others : List (List Char)}
    (plain : ∀ p ∈ part :: others, ∀ c ∈ p, c ≠ '.') :
    Identifier.pathParts (['.'].intercalate (part :: others)) = part :: others := by
  induction others generalizing part with
  | nil =>
      have empty : Identifier.pathParts [] = [[]] := rfl
      have single := pathParts_append (plain part List.mem_cons_self) empty
      simpa using single
  | cons next others ih =>
      have rest := ih fun p member => plain p (List.mem_cons_of_mem part member)
      have dotted : Identifier.pathParts ('.' :: ['.'].intercalate (next :: others)) =
          [] :: next :: others := by
        rw [Identifier.pathParts, rest]
        rfl
      have whole := pathParts_append (plain part List.mem_cons_self) dotted
      rwa [List.append_nil] at whole

theorem nameParts_intercalate {name : String} {keys : List String}
    (identifiers : ∀ part ∈ name :: keys, Identifier.isIdentifier part.toList) :
    nameParts (".".intercalate (name :: keys)) = name :: keys := by
  have chars : (".".intercalate (name :: keys)).toList =
      ['.'].intercalate ((name :: keys).map String.toList) := String.toList_intercalate
  have parts : Identifier.pathParts (".".intercalate (name :: keys)).toList =
      (name :: keys).map String.toList := by
    rw [chars]
    refine pathParts_intercalate fun p (member : p ∈ (name :: keys).map String.toList) => ?_
    obtain ⟨part, own, rfl⟩ := List.mem_map.1 member
    exact ne_dot_of_isIdentifier (identifiers part own)
  have nonempty : (".".intercalate (name :: keys)).isEmpty = false := by
    rw [Bool.eq_false_iff]
    intro empty
    rw [String.isEmpty_iff.1 empty] at parts
    have own : name.toList = [] := (List.cons.inj parts).1.symm
    have identifier := identifiers name List.mem_cons_self
    rw [own] at identifier
    cases identifier
  rw [nameParts, nonempty, if_neg Bool.false_ne_true, parts, List.map_map]
  simp

theorem assignRest_path (value : Expr) (name key : String) (before rest : List String) :
    assignRest value (.path name (key :: before)) rest =
      ((List.range rest.length).map fun k => .setUp name (key :: before ++ rest.take k)) ++
        [.setPath name (key :: before ++ rest) value] := by
  induction rest generalizing before with
  | nil =>
      rw [List.append_nil]
      rfl
  | cons part rest ih =>
      have next := ih (before ++ [part])
      rw [← List.cons_append, Expr.path_append] at next
      rw [assignRest, next, List.length_cons, List.range_succ_eq_map, List.map_cons, List.map_map,
        List.take_zero, List.append_nil, List.append_assoc _ [part]]
      simp only [Function.comp_def, List.take_succ_cons, List.append_assoc]
      rfl

theorem assignPath_cons (value : Expr) (name : String) (keys : List String) :
    assignPath value (name :: keys) = Stmt.setUps name keys ++ [.setPath name keys value] := by
  cases keys with
  | nil => rfl
  | cons part rest =>
      have later := assignRest_path value name part [] rest
      change Stmt.setUp name [] :: assignRest value (.path name [part]) rest = _
      rw [later, Stmt.setUps, List.length_cons, List.range_succ_eq_map, List.map_cons, List.map_map]
      rfl

/-- A source is lowered, and its exports can be pasted; this does not depend on what receives the
call. -/
structure IsEnclosable (source : String) (l : Lowered) : Prop where
  lowered : ∃ program, readProgram source.toList = .ok program ∧
    hasTopLevelAwait program = false ∧ Lowered.ofProgram program = .ok l
  getters : brokenGetter? l = none

def moduleCall (l : Lowered) : Expr :=
  callOf (opening .iife l ++ (l.imports ++ l.body) ++ closing .iife l)

section
variable {options : Options} {source : String} {l : Lowered}

theorem transform_eq_ok_iff (iife : options.format = .iife)
    (plain : isPlainPath (nameParts options.globalName)) (code : String) :
    transform options source = .ok code ↔ ∃ l, IsEnclosable source l ∧ code =
      Module.print options.minify
        { items := (assignPath (moduleCall l) (nameParts options.globalName)).map .stmt } := by
  have lowers : options.format ≠ .esm := by rw [iife]; decide
  constructor
  · intro done
    obtain ⟨program, out, read, bundled, printed⟩ := transform_program done
    obtain ⟨quiet, l, lowered, -⟩ := bundle_program lowers bundled
    rw [transform_lowered read lowers quiet lowered, formed, if_pos iife] at done
    cases getters : brokenGetter? l with
    | some failure =>
        simp only [enclose, wrapper, plain, if_true, withGetters, getters] at done
        cases done
    | none =>
        rw [enclose_of_isPlainPath plain getters] at done
        exact ⟨l, ⟨⟨program, read, quiet, lowered⟩, getters⟩, (Except.ok.inj done).symm⟩
  · rintro ⟨l, ⟨⟨program, read, quiet, lowered⟩, getters⟩, rfl⟩
    rw [transform_lowered read lowers quiet lowered, formed, if_pos iife,
      enclose_of_isPlainPath plain getters]
    rfl

theorem IsEnclosable.isWritten (enclosable : IsEnclosable source l) :
    ∀ e ∈ l.exports, e.getter.isWritten := by
  obtain ⟨⟨program, read, -, lowered⟩, getters⟩ := enclosable
  cases program with
  | module m =>
      have names := isNamed_of_clean? (readProgram_module_iff.1 read).2
      rw [brokenGetter?, Option.map_eq_none_iff, tableProblem?_eq_none_iff] at getters
      exact exports_isWritten names lowered ((pastes_iff lowered).2 getters)
  | script s =>
      cases lowered
      exact List.forall_mem_nil _

/-- The code for a path of `n` names is `n` statements, of which only the last one holds statements of
the source; it exists whenever there is code at all. The text of the statements is read as them. Where
they are run, all that leads to an object before does so after, and each beginning of the path leads to
one before the result is assigned. Without a name, the call is the only statement. -/
theorem transform_destination (iife : options.format = .iife) :
    (∀ name keys, (∀ part ∈ name :: keys, IsAsciiName part) →
      options.globalName = ".".intercalate (name :: keys) →
      (Stmt.setUps name keys).length + 1 = (name :: keys).length ∧
      (∀ code, transform options source = .ok code ↔ ∃ l, IsEnclosable source l ∧ code =
        Module.print options.minify
          { items := (Stmt.setUps name keys ++ [Stmt.setPath name keys (moduleCall l)]).map .stmt }) ∧
      (∀ l, IsEnclosable source l →
        (readPrologue l = prologue l ↔
          ∀ e ∈ l.exports, ∀ name, e.getter = .own name → valueOf? name = none) ∧
        ∃ m filled, (Module.parse (Template.text (name :: keys) l).toList).clean? = some m ∧
        fillLast (l.imports ++ l.body) m.items = .ok filled ∧
        filled.map ModuleItem.unplaced =
          (Stmt.setUps name keys ++ [Stmt.setPath name keys (callOf (readPrologue l ++
            (l.imports ++ l.body).map Stmt.unplaced ++ returnExports l))]).map .stmt) ∧
      ∀ env s among, Runtime.Ready s env name keys among →
        ∃ n s', Runtime.ExecutesAll n env (Stmt.setUps name keys) s (.ok s') ∧
          (∀ other path ref, Runtime.Leads s env other path ref →
            Runtime.Leads s' env other path ref) ∧
          ∀ k < keys.length, ∃ ref, Runtime.Leads s' env name (keys.take k) ref) ∧
    (options.globalName = "" →
      ∀ code, transform options source = .ok code ↔ ∃ l, IsEnclosable source l ∧ code =
        Module.print options.minify { items := [.stmt (.expr (moduleCall l))] }) := by
  refine ⟨fun name keys named global => ?_, fun global code => ?_⟩
  · have path : nameParts options.globalName = name :: keys := by
      rw [global]
      exact nameParts_intercalate fun part member => (named part member).identifier
    have plain : isPlainPath (name :: keys) := isPlainPath_of_ascii named
    refine ⟨by simp [Stmt.setUps], fun code => ?_, fun l enclosable => ?_,
      fun _ _ _ => Runtime.executes_setUps⟩
    · have iff := @transform_eq_ok_iff options source iife (path ▸ plain) code
      simpa only [path, assignPath_cons] using iff
    · have read := fillLast_text plain enclosable.isWritten (l.imports ++ l.body)
      rw [assignPath_cons] at read
      exact ⟨readPrologue_eq_iff, read⟩
  · have path : nameParts options.globalName = [] := by
      rw [global]
      rfl
    have iff := @transform_eq_ok_iff options source iife (by rw [path]; rfl) code
    rw [path] at iff
    exact iff

def windowStore : Runtime.Store where
  objects ref := if ref = Runtime.objectPrototype then {} else Runtime.emptyObject
  objectCount := 2
  scopes _ name := if name = "window" then some (.object 1) else none
  scopeCount := 1

theorem properties_windowStore (ref : Nat) : (windowStore.objects ref).properties = [] := by
  simp only [windowStore]
  split <;> rfl

theorem ready_windowStore : Runtime.Ready windowStore [0] "window" ["lib"] fun _ => True where
  closed :=
    { made := by decide
      bindings := by
        intro scope name ref found
        simp only [windowStore] at found
        split at found <;> cases found
        decide
      protos := by
        intro ref proto found
        simp only [windowStore] at found
        split at found <;> cases found
        decide
      properties := by
        intro ref key p value found
        rw [properties_windowStore] at found
        cases found }
  root := ⟨.object 1, rfl, fun _ => ⟨1, rfl, trivial⟩⟩
  prototype := trivial
  protos := fun _ _ => trivial
  plain := by
    intro ref within key member p found
    rw [properties_windowStore] at found
    cases found

theorem transform_destination_of_dottedConfig :
    (∃ l code, IsEnclosable "f();" l ∧
      transform dottedConfig.transformation.options "f();" = .ok code ∧
      code = Module.print false
        { items := [.stmt (.declareVar "window" (.binary .logicalOr (.ident "window") (.object []))),
            .stmt (.expr (.assignTo (.dot (.ident "window") "lib") (moduleCall l)))] }) ∧
      ∃ n s', Runtime.ExecutesAll n [0] (Stmt.setUps "window" ["lib"]) windowStore (.ok s') ∧
        Runtime.Leads s' [0] "window" [] 1 := by
  have named : ∀ part ∈ ["window", "lib"], IsAsciiName part := by
    refine List.forall_mem_cons.2 ⟨?_, List.forall_mem_singleton.2 ?_⟩
    all_goals exact ⟨by decide +kernel, by decide +kernel, by decide⟩
  obtain ⟨-, iff, -, runs⟩ := (@transform_destination dottedConfig.transformation.options "f();"
    rfl).1 "window" ["lib"] named (by decide)
  have encloses : (transform dottedConfig.transformation.options "f();").isOk := by decide +kernel
  obtain ⟨code, done⟩ := ok_of_isOk encloses
  obtain ⟨l, enclosable, printed⟩ := (iff code).1 done
  obtain ⟨n, s', executes, kept, -⟩ := runs [0] windowStore _ ready_windowStore
  exact ⟨⟨l, code, enclosable, done, printed⟩, n, s', executes, kept _ _ _ (.root rfl)⟩

end

end Enclose.Bundle
