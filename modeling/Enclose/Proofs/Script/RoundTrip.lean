import Enclose.Proofs.Script.ReadStatements

/-!
# Texts of generated code are read back

A text that spells the wordings of statements is read, without complaint, as a module of these
statements (`clean?_of_wording`).
-/

namespace Enclose.Script
open Enclose.Script.Parser

def Pattern.InnerReads : Pattern → Prop
  | .defaulted _ value => value.Reads
  | .expr target => target.Reads
  | _ => True

theorem names_of_params {params : List Pattern} (names : params.all Pattern.isName)
    (worded : areWordedPatterns params) :
    ∃ words : List String, params = words.map .ident ∧ ∀ word ∈ words, MayBind word := by
  induction params with
  | nil => exact ⟨[], rfl, nofun⟩
  | cons p params ih =>
      rw [List.all_cons, Bool.and_eq_true] at names
      rw [areWordedPatterns, Bool.and_eq_true] at worded
      obtain ⟨words, rfl, bound⟩ := ih names.2 worded.2
      cases p with
      | ident name =>
          refine ⟨name :: words, rfl, List.forall_mem_cons.2 ⟨?_, bound⟩⟩
          exact of_decide_eq_true worded.1
      | _ => cases names.1

theorem binds_of_properties {properties : List Pattern} (shapes : properties.all Pattern.isProperty)
    (worded : areWordedPatterns properties) : ∀ p ∈ properties, p.Binds := by
  induction properties with
  | nil => nofun
  | cons p properties ih =>
      rw [List.all_cons, Bool.and_eq_true] at shapes
      rw [areWordedPatterns, Bool.and_eq_true] at worded
      refine List.forall_mem_cons.2 ⟨?_, ih shapes.2 worded.2⟩
      cases p with
      | shorthand name value =>
          cases value with
          | none => exact .shorthand (of_decide_eq_true worded.1)
          | some => cases shapes.1
      | keyed key value =>
          cases value with
          | ident name => exact .keyed shapes.1 (of_decide_eq_true worded.1)
          | _ => cases shapes.1
      | _ => cases shapes.1

theorem Pattern.reads_of_isBinding {p : Pattern} (binding : p.isBinding) (worded : p.isWorded) :
    p.Reads := by
  cases p with
  | ident name => exact reads_ident (of_decide_eq_true worded)
  | object properties =>
      rw [isWorded, Bool.and_eq_true] at worded
      exact reads_object (binds_of_properties worded.1 worded.2)
  | _ => cases binding

theorem Pattern.starts_of_isBinding {p : Pattern} (binding : p.isBinding) {ps rest : List Piece}
    (laid : Laid p.wording ps rest) : next? ps ≠ some .semicolon := by
  cases p with
  | ident | object =>
      obtain ⟨n, later, rfl, -, -⟩ := laid.cons_inv
      simp [next?]
  | _ => cases binding

theorem notStrict_of_leads {e : Expr} (leads : leadsStatement (e.wording ++ [loose .semicolon])) :
    isUseStrict (.expr e) = false := by
  cases e with
  | string => cases leads
  | _ => rfl

section
variable {c : Context} {d : Nat} {ps rest : List Piece} {body : List Stmt}

def InRow (ps : List Piece) (s : Stmt) : Prop := Next startsStmt ps ∧ isUseStrict s = false

theorem Parser.Sequence.mono {α β : Type} {p : Parse α} {look : α → β}
    {fits fits' : List Piece → β → Prop} {bs : List β} (sequence : Sequence p look fits c rest ps bs)
    (weaker : ∀ ps b, fits ps b → fits' ps b) : Sequence p look fits' c rest ps bs := by
  induction sequence with
  | done => exact .done
  | next fits one _ ih => exact .next (weaker _ _ fits) one ih

theorem sequence_of_laid (reads : ∀ s ∈ body, s.Reads)
    (inside : ∀ s ∈ body, s.isFree ∨ c.inFunction = true) (plain : c.IsPlain)
    (deep : 3 * (stmtsWording body).length ≤ d) (laid : Laid (stmtsWording body) ps rest)
    (ends : next? rest ≠ some (.word "else")) :
    Sequence ((grammar d).statement true) Stmt.unplaced InRow c rest ps body := by
  induction body generalizing ps with
  | nil =>
      cases laid
      exact .done
  | cons s others ih =>
      rw [stmtsWording, List.length_append] at deep
      obtain ⟨later, first, laid⟩ := laid.append_inv
      have head := reads s List.mem_cons_self
      have next := ih (fun s member => reads s (.tail _ member))
        (fun s member => inside s (.tail _ member)) (by omega) laid
      -- Each statement stands before the next one, and none of them starts with `else`.
      have noElse : next? later ≠ some (.word "else") := by
        cases next with
        | done => exact ends
        | next fits => exact fits.1.ne rfl
      have starts := head.starts first
      have long : 0 < s.wording.length := by
        refine List.length_pos_iff.2 fun none => ?_
        have empty : Laid s.wording [] [] := none ▸ .nil
        cases head.starts empty
      obtain ⟨d, rfl⟩ : ∃ k, d = k + 1 := ⟨d - 1, by omega⟩
      refine .next ⟨starts, head.notStrict⟩ ?_ next
      exact head.statement (d := d) plain (inside s List.mem_cons_self) (.inr rfl) (by omega) first noElse

end

mutual

theorem Expr.reads : ∀ e : Expr, e.isWorded → e.Reads
  | .ident _, worded => Expr.reads_ident (of_decide_eq_true worded)
  | .this, _ => @Expr.reads_valueWord "this" _ rfl
  | .null, _ => @Expr.reads_valueWord "null" _ rfl
  | .bool true, _ => @Expr.reads_valueWord "true" _ rfl
  | .bool false, _ => @Expr.reads_valueWord "false" _ rfl
  | .string lit, _ => Expr.reads_string lit
  | .object properties, worded => Expr.reads_object (properties_read properties worded)
  | .paren inner, worded => by
      simp only [Expr.isWorded, Bool.and_eq_true, Bool.not_eq_true'] at worded
      exact Expr.reads_paren (Expr.reads inner worded.1) worded.2
  | .member whole key, worded => by
      simp only [Expr.isWorded, Bool.and_eq_true, decide_eq_true_eq] at worded
      exact Expr.reads_member (Expr.reads whole worded.1.1) worded.1.2 (key_reads key worded.2)
  | .call callee args, worded => by
      simp only [Expr.isWorded, Bool.and_eq_true, decide_eq_true_eq] at worded
      exact Expr.reads_call (Expr.reads callee worded.1.1.1) worded.1.1.2 worded.1.2
        (elements_read args worded.2)
  | .unary op inner, worded => by
      simp only [Expr.isWorded, Bool.and_eq_true, decide_eq_true_eq, beq_iff_eq] at worded
      obtain ⟨⟨rfl, inner_⟩, strong⟩ := worded
      exact Expr.reads_not (Expr.reads inner inner_) strong
  | .binary op left right, worded => by
      simp only [Expr.isWorded, Bool.and_eq_true, decide_eq_true_eq] at worded
      exact Expr.reads_binary worded.1.1.1.1 (Expr.reads left worded.1.1.1.2)
        (Expr.reads right worded.1.1.2) worded.1.2 worded.2
  | .conditional test yes no, worded => by
      simp only [Expr.isWorded, Bool.and_eq_true, decide_eq_true_eq] at worded
      exact Expr.reads_conditional (Expr.reads test worded.1.1.1) (Expr.reads yes worded.1.1.2)
        (Expr.reads no worded.1.2) worded.2
  | .assign op target value, worded => by
      simp only [Expr.isWorded, Bool.and_eq_true, beq_iff_eq] at worded
      obtain ⟨⟨⟨rfl, isMember⟩, wordedTarget⟩, wordedValue⟩ := worded
      have inner := Pattern.inner_reads target wordedTarget
      have readsValue := Expr.reads value wordedValue
      unfold Pattern.isMember at isMember
      split at isMember
      case h_1 => exact Expr.reads_assign inner readsValue
      case h_2 => cases isMember
  | .arrow isAsync params value, worded => by
      simp only [Expr.isWorded, Bool.and_eq_true, Bool.not_eq_true'] at worded
      obtain ⟨⟨⟨⟨rfl, names⟩, bound⟩, wordedValue⟩, noBlock⟩ := worded
      obtain ⟨words, rfl, mayBind⟩ := names_of_params names bound
      refine Expr.reads_arrow mayBind (Expr.reads value wordedValue) fun ps rest laid => ?_
      cases wording : value.wording with
      | nil =>
          exact absurd wording (Expr.wording_ne_nil (Expr.reads value wordedValue).starts)
      | cons p others =>
          obtain ⟨t, a⟩ := p
          rw [wording] at laid noBlock
          obtain ⟨n, later, rfl, -, -⟩ := laid.cons_inv
          simpa [next?] using noBlock
  | .arrowBlock isAsync params body, worded => by
      simp only [Expr.isWorded, Bool.and_eq_true, Bool.not_eq_true'] at worded
      obtain ⟨⟨⟨rfl, names⟩, bound⟩, wordedBody⟩ := worded
      obtain ⟨words, rfl, mayBind⟩ := names_of_params names bound
      have reads := stmts_read body wordedBody
      refine Expr.reads_arrowBlock mayBind fun c d ps rest plain inside deep laid ends => ?_
      refine (sequence_of_laid reads (fun _ _ => .inr inside) plain deep laid ?_).mono ?_
      · rw [ends]
        nofun
      · exact fun ps s ⟨starts, notStrict⟩ => ⟨starts.ne rfl, notStrict⟩

theorem key_reads : ∀ key : PropertyKey, key.isWorded →
    (∃ name, key = .ident name) ∨ ∃ inner, key = .computed inner ∧ inner.Reads
  | .ident name, _ => .inl ⟨name, rfl⟩
  | .computed inner, worded => .inr ⟨inner, rfl, Expr.reads inner worded⟩

theorem elements_read : ∀ elements : List Element, areWordedElements elements →
    ∀ arg ∈ elements, ∃ value, arg = .item 0 value ∧ value.Reads
  | [], _ => nofun
  | .item place value :: others, worded => by
      simp only [areWordedElements, Element.isWorded, Bool.and_eq_true, beq_iff_eq] at worded
      obtain ⟨⟨rfl, wordedValue⟩, others_⟩ := worded
      exact List.forall_mem_cons.2 ⟨⟨value, rfl, Expr.reads value wordedValue⟩,
        elements_read others others_⟩

theorem properties_read : ∀ properties : List Property, areWordedProperties properties →
    ∀ p ∈ properties, ∃ key value, p = .keyed 0 key 0 value ∧ key.isNamed ∧ value.Reads
  | [], _ => nofun
  | .keyed place key valuePlace value :: others, worded => by
      simp only [areWordedProperties, Property.isWorded, Bool.and_eq_true, beq_iff_eq] at worded
      obtain ⟨⟨⟨⟨rfl, rfl⟩, named⟩, wordedValue⟩, others_⟩ := worded
      exact List.forall_mem_cons.2 ⟨⟨key, value, rfl, named, Expr.reads value wordedValue⟩,
        properties_read others others_⟩

theorem Pattern.inner_reads : ∀ p : Pattern, p.isWorded → p.InnerReads
  | .defaulted target value, worded => by
      rw [Pattern.isWorded, Bool.and_eq_true] at worded
      exact Expr.reads value worded.2
  | .expr target, worded => Expr.reads target worded
  | .ident _, _ | .object _, _ | .shorthand _ _, _ | .keyed _ _, _ => trivial

theorem Stmt.reads : ∀ s : Stmt, s.isWorded → s.Reads
  | .expr value, worded => by
      simp only [Stmt.isWorded, Bool.and_eq_true] at worded
      exact Stmt.reads_expr (Expr.reads value worded.1) worded.2 (notStrict_of_leads worded.2)
  | .var kind declarators, worded => by
      simp only [Stmt.isWorded, Bool.and_eq_true, beq_iff_eq] at worded
      obtain ⟨⟨⟨fixed, shapes⟩, single⟩, bound⟩ := worded
      have inner := patterns_read declarators bound
      obtain ⟨p, rfl⟩ := List.length_eq_one_iff.1 single
      simp only [List.all_cons, List.all_nil, Bool.and_true] at shapes
      simp only [areWordedPatterns, Bool.and_true] at bound
      cases p with
      | defaulted target value =>
          rw [Pattern.isWorded, Bool.and_eq_true] at bound
          exact Stmt.reads_var fixed (Pattern.reads_of_isBinding shapes bound.1)
            (fun ps rest laid => Pattern.starts_of_isBinding shapes laid)
            (inner _ List.mem_cons_self)
      | _ => cases shapes
  | .ifElse test body none, worded => by
      simp only [Stmt.isWorded, Bool.and_eq_true] at worded
      exact Stmt.reads_if (Expr.reads test worded.1.1) (Stmt.reads body worded.1.2) worded.2
  | .forIn (.var kind declarators) object body, worded => by
      simp only [Stmt.isWorded, ForHead.isWorded, Bool.and_eq_true, beq_iff_eq] at worded
      obtain ⟨⟨⟨⟨⟨⟨fixed, names⟩, single⟩, bound⟩, wordedObject⟩, wordedBody⟩, isBody⟩ := worded
      obtain ⟨words, rfl, mayBind⟩ := names_of_params names bound
      obtain ⟨word, rfl⟩ := List.length_eq_one_iff.1 (List.length_map _ ▸ single)
      exact Stmt.reads_forIn fixed (mayBind word List.mem_cons_self) (Expr.reads object wordedObject)
        (Stmt.reads body wordedBody) isBody
  | .return (some (.ident _)), worded => Stmt.reads_return (of_decide_eq_true worded)

theorem patterns_read : ∀ patterns : List Pattern, areWordedPatterns patterns →
    ∀ p ∈ patterns, p.InnerReads
  | [], _ => nofun
  | p :: others, worded => by
      rw [areWordedPatterns, Bool.and_eq_true] at worded
      exact List.forall_mem_cons.2 ⟨Pattern.inner_reads p worded.1, patterns_read others worded.2⟩

theorem stmts_read : ∀ stmts : List Stmt, areWordedStmts stmts → ∀ s ∈ stmts, s.Reads
  | [], _ => nofun
  | s :: others, worded => by
      rw [areWordedStmts, Bool.and_eq_true] at worded
      exact List.forall_mem_cons.2 ⟨Stmt.reads s worded.1, stmts_read others worded.2⟩

end

theorem items_of_sequence {d : Nat} {c : Context} {ps : List Piece} {body : List Stmt}
    (sequence : Sequence ((grammar d).statement true) Stmt.unplaced InRow c [] ps body) :
    Sequence (moduleItem (grammar d)) ModuleItem.unplaced IsPlainItem c [] ps (body.map .stmt) := by
  induction sequence with
  | done => exact .done
  | next fits one _ ih =>
      refine .next fits.2 (phrase_moduleItem (fun word reserved => ?_) one) ih
      simp only [List.mem_cons, List.not_mem_nil, or_false] at reserved
      rcases reserved with rfl | rfl | rfl <;> exact fits.1.ne rfl

theorem clean?_of_wording {text : List Char} {ps : List Piece} {body : List Stmt}
    (spells : Spells true text ps) (laid : Laid (stmtsWording body) ps []) (worded : areWordedStmts body)
    (free : ∀ s ∈ body, s.isFree) :
    ∃ m, (Module.parse text).clean? = some m ∧
      m.items.map ModuleItem.unplaced = body.map .stmt := by
  have reads := stmts_read body worded
  have noHash : next? ps ≠ some .hash := by
    cases body with
    | nil =>
        cases laid
        nofun
    | cons s others =>
        obtain ⟨later, first, -⟩ := laid.append_inv
        exact ((reads s List.mem_cons_self).starts first).ne rfl
  refine clean?_of_spells spells (readHashbang_of_spells spells noHash) (items_of_sequence ?_)
  refine sequence_of_laid reads (fun s member => .inl (free s member)) ⟨rfl, rfl, rfl, rfl, rfl⟩ ?_
    laid nofun
  have tokens := laid.length_eq
  have := spells.length_le
  simp only [List.length_nil] at tokens
  omega

end Enclose.Script
