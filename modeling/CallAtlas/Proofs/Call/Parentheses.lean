import CallAtlas.Call.Site
import CallAtlas.Proofs.Tree.Layout
import CallAtlas.Proofs.Tree.Sketch

/-!
Parentheses around a callee. Unwrapping goes on with the first named node inside
each pair of parentheses, and a comment is a named node. So parentheses leave the
name of a call as it is unless a comment is the first thing in one of them, and
there a call of a name counts as a call of nothing (`calleeName?_exact`).
-/

namespace CallAtlas

namespace Node

def isComment (node : Node) : Bool :=
  node.kind = "comment" || node.kind = "html_comment"

def operands (node : Node) : List Node :=
  node.children.filter fun child => child.named && !child.isComment

/-- Nested parentheses, outermost first, each around one operand, and what the innermost holds. -/
inductive Wraps : Node → List Node → Node → Prop
  | bare {target : Node} (plain : target.kind ≠ "parenthesized_expression") : Wraps target [] target
  | level {outer inner target : Node} {levels : List Node}
      (paren : outer.kind = "parenthesized_expression") (single : outer.operands = [inner])
      (within : Wraps inner levels target) : Wraps outer (outer :: levels) target

def opensWithComment (level : Node) : Bool :=
  (level.children.find? Node.named).any isComment

theorem firstUnwrapped?_eq (children : List Node) :
    firstUnwrapped? children = (children.find? Node.named).bind unwrapped? := by
  induction children with
  | nil => rfl
  | cons child rest ih =>
      rw [firstUnwrapped?, List.find?_cons]
      cases child.named with
      | true => rfl
      | false => exact ih

theorem unwrapped?_of_plain {node : Node} (plain : node.kind ≠ "parenthesized_expression") :
    node.unwrapped? = some node := by
  obtain ⟨label, children⟩ := node
  exact if_neg plain

theorem unwrapped?_of_paren {node : Node} (paren : node.kind = "parenthesized_expression") :
    node.unwrapped? = (node.children.find? Node.named).bind unwrapped? := by
  obtain ⟨label, children⟩ := node
  exact (if_pos paren).trans (firstUnwrapped?_eq children)

theorem kind_of_isComment {node : Node} (comment : node.isComment = true) :
    node.kind = "comment" ∨ node.kind = "html_comment" := by
  simpa [isComment] using comment

theorem find?_named_of_operands {outer inner : Node} (single : outer.operands = [inner]) :
    ∃ first, outer.children.find? Node.named = some first ∧
      (first.isComment = false → first = inner) := by
  have member : inner ∈ outer.operands := by simp [single]
  obtain ⟨held, named⟩ := List.mem_filter.mp member
  have present : (outer.children.find? Node.named).isSome := by
    rw [List.find?_isSome]
    exact ⟨inner, held, (Bool.and_eq_true_iff.mp named).1⟩
  obtain ⟨first, found⟩ := Option.isSome_iff_exists.mp present
  refine ⟨first, found, ?_⟩
  intro operand
  have among : first ∈ outer.operands := by
    refine List.mem_filter.mpr ⟨List.mem_of_find?_eq_some found, ?_⟩
    rw [List.find?_some found, operand]
    rfl
  simpa [single] using among

end Node

namespace SyntaxTree

variable {tree : SyntaxTree} {call function target : Node} {levels : List Node}

/-- What a target without parentheses is called by: an identifier by its text, a member expression
by the text of the property. -/
inductive Names (tree : SyntaxTree) : Node → String → Prop
  | identifier {target : Node} (kind : target.kind = "identifier") :
      Names tree target (tree.text target)
  | member {target property : Node} (kind : target.kind = "member_expression")
      (held : target.childUnder? "property" = some property)
      (plain : property.kind = "property_identifier") : Names tree target (tree.text property)

theorem targetName?_eq_some_iff {name : String} :
    tree.targetName? target = some name ↔ tree.Names target name := by
  constructor
  · intro found
    rw [targetName?] at found
    split at found
    · next kind =>
        obtain rfl := Option.some.inj found
        exact .identifier kind
    · split at found
      · next kind =>
          split at found
          · next property held =>
              split at found
              · next plain =>
                  obtain rfl := Option.some.inj found
                  exact .member kind held plain
              · cases found
          · cases found
      · cases found
  · intro names
    cases names with
    | identifier kind => simp [targetName?, kind]
    | member kind held plain => simp [targetName?, kind, held, plain]

theorem targetName?_of_isComment (comment : target.isComment = true) :
    tree.targetName? target = none := by
  rcases Node.kind_of_isComment comment with kind | kind <;> simp [targetName?, kind]

/-- The name behind parentheses is lost exactly when one of them opens with a comment. -/
theorem targetName?_unwrapped (wraps : Node.Wraps function levels target) :
    function.unwrapped?.bind tree.targetName? =
      if levels.any Node.opensWithComment then none else tree.targetName? target := by
  induction wraps with
  | bare plain => rw [Node.unwrapped?_of_plain plain]; rfl
  | @level outer inner target levels paren single within ih =>
      obtain ⟨first, found, operand⟩ := Node.find?_named_of_operands single
      have opens : outer.opensWithComment = first.isComment := by
        rw [Node.opensWithComment, found]
        rfl
      rw [Node.unwrapped?_of_paren paren, found, List.any_cons, opens]
      cases comment : first.isComment with
      | false =>
          rw [operand comment]
          exact ih
      | true =>
          -- A comment is no parenthesis, so the unwrapping ends at it.
          have plain : first.kind ≠ "parenthesized_expression" := by
            rcases Node.kind_of_isComment comment with kind | kind <;> simp [kind]
          rw [Option.bind_some, Node.unwrapped?_of_plain plain]
          exact targetName?_of_isComment comment

theorem calleeName?_eq (untagged : call.isTaggedTemplate = false)
    (held : call.childUnder? "function" = some function) :
    tree.calleeName? call = function.unwrapped?.bind tree.targetName? := by
  rw [calleeName?, untagged, held]
  rfl

/-- A call of a target in any parentheses has the name of the target if no pair of them opens with
a comment, and no name otherwise; so parentheses change the name of a call exactly where the target
has one and a pair opens with a comment. -/
theorem calleeName?_exact (untagged : call.isTaggedTemplate = false)
    (held : call.childUnder? "function" = some function)
    (wraps : Node.Wraps function levels target) :
    (∀ name, tree.calleeName? call = some name ↔
      tree.Names target name ∧ ∀ level ∈ levels, level.opensWithComment = false) ∧
    ((∀ name, tree.calleeName? call = some name ↔ tree.Names target name) ↔
      ((∃ name, tree.Names target name) →
        ∀ level ∈ levels, level.opensWithComment = false)) := by
  have called : ∀ name, tree.calleeName? call = some name ↔
      tree.Names target name ∧ ∀ level ∈ levels, level.opensWithComment = false := by
    intro name
    rw [calleeName?_eq untagged held, targetName?_unwrapped wraps]
    split
    · next opens =>
        obtain ⟨level, member, comment⟩ := List.any_eq_true.mp opens
        constructor
        · intro found
          cases found
        · rintro ⟨-, none⟩
          rw [none level member] at comment
          cases comment
    · next none =>
        rw [targetName?_eq_some_iff]
        simp only [List.any_eq_true, not_exists, not_and, Bool.not_eq_true] at none
        exact (and_iff_left none).symm
  refine ⟨called, ?_⟩
  constructor
  · rintro same ⟨name, names⟩
    exact ((called name).mp ((same name).mpr names)).2
  · intro none name
    rw [called name]
    exact ⟨And.left, fun names => ⟨names, none ⟨name, names⟩⟩⟩

/-- `(/* c */ f)();` in a function `g`, behind the function `f`. -/
def commentedCall : SyntaxTree :=
  let callee := Sketch.rule "parenthesized_expression" 31 42
    [Sketch.token "(" 31, Sketch.rule "comment" 32 39 [], Sketch.identifier 40, Sketch.token ")" 41]
  let call := Sketch.rule "call_expression" 31 44
    [Sketch.under "function" callee, Sketch.under "arguments" (Sketch.brackets "arguments" 42)]
  Sketch.program "function f() \x7b\x7d\nfunction g() \x7b (/* c */ f)(); \x7d"
    [Sketch.function "function_declaration" 0 15 [],
      Sketch.function "function_declaration" 16 47
        [Sketch.rule "expression_statement" 31 45 [call, Sketch.token ";" 44]]]

theorem commentedCall_nameless :
    let call := (Sketch.place commentedCall [1, 3, 1, 0]).node
    let callee := (Sketch.place commentedCall [1, 3, 1, 0, 0]).node
    let target := (Sketch.place commentedCall [1, 3, 1, 0, 0, 2]).node
    commentedCall.WellFormed ∧ call.isCallSite = true ∧ call.childUnder? "function" = some callee ∧
      Node.Wraps callee [callee] target ∧ commentedCall.Names target "f" ∧
      commentedCall.calleeName? call = none ∧
      ¬ ∀ name, commentedCall.calleeName? call = some name ↔ commentedCall.Names target name := by
  intro call callee target
  have untagged : call.isTaggedTemplate = false := by decide
  have held : call.childUnder? "function" = some callee := by rfl
  have wraps : Node.Wraps callee [callee] target := .level rfl rfl (.bare (by decide))
  have names : commentedCall.Names target "f" := .identifier rfl
  obtain ⟨called, same⟩ := @calleeName?_exact commentedCall call callee target [callee]
    untagged held wraps
  have opens : callee.opensWithComment = true := by decide
  refine ⟨by decide +kernel, by decide, held, wraps, names, ?_, ?_⟩
  · rw [Option.eq_none_iff_forall_ne_some]
    intro name found
    have none := ((called name).mp found).2 callee (List.mem_singleton_self callee)
    rw [opens] at none
    cases none
  · intro kept
    have none := same.mp kept ⟨"f", names⟩ callee (List.mem_singleton_self callee)
    rw [opens] at none
    cases none

end SyntaxTree

end CallAtlas
