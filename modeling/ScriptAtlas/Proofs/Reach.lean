import ScriptAtlas.Extract.Outcome
import ScriptAtlas.Proofs.Preorder

/-! The reach of the walk over a file: the stack loop visits, in pre-order and once each, the
nodes that lie below no opaque node. What a node may add to the tables is then found inside its
own territory, and the territories of the visited nodes divide the tree in source order. -/
namespace ScriptAtlas
open SyntaxTree

namespace SyntaxTree.Cursor

/-- A node whose inside is left to what it declares, or is not looked at: a function or class, a
declaration of variables at module level, an import, a statement that is dealt with completely,
and a function value that is neither called on the spot nor handed to a call. -/
def isOpaque (source : Source) (aliases : Aliases) (cursor : Cursor) : Bool :=
  let kind := cursor.node.kind
  kind.isFunctionDeclaration || kind.isClass ||
    (kind.isVariableDeclaration && cursor.isModuleLevel) || kind == .importStatement ||
    (kind == .expressionStatement && (Idiom.ofStatement source aliases cursor.node).consumes) ||
    (kind.isFunctionValue && !cursor.isTransparent)

/-- Below no opaque node. -/
def isReached (source : Source) (aliases : Aliases) (cursor : Cursor) : Bool :=
  cursor.ancestors.all fun above => !above.isOpaque source aliases

/-- The reached cursors at or below those of a stack, in pre-order. -/
def reachedFrom (source : Source) (aliases : Aliases) (stack : List Cursor) : List Cursor :=
  (walk stack).filter (·.isReached source aliases)

end SyntaxTree.Cursor

open SyntaxTree.Cursor

/-- Whether the walk goes on below a node is decided by the node's place, the source and the
aliases alone. -/
theorem Form.enters_of (source : Source) (aliases : Aliases) (cursor : Cursor) :
    (Form.of source aliases cursor).enters = !cursor.isOpaque source aliases := by
  unfold Form.of Cursor.isOpaque
  by_cases function : cursor.node.kind.isFunctionDeclaration
  · simp [function, Form.enters]
  by_cases isClass : cursor.node.kind.isClass
  · simp [function, isClass, Form.enters]
  by_cases declares : cursor.node.kind.isVariableDeclaration
  · rcases Kind.isVariableDeclaration_iff.mp declares with kind | kind <;>
      by_cases level : cursor.isModuleLevel <;>
      simp [kind, level, Form.enters, Kind.isFunctionDeclaration, Kind.isClass,
        Kind.isVariableDeclaration, Kind.isFunctionValue]
  by_cases importing : cursor.node.kind = .importStatement
  · simp [importing, Form.enters, Kind.isFunctionDeclaration, Kind.isClass,
      Kind.isVariableDeclaration]
  by_cases exporting : cursor.node.kind = .exportStatement
  · simp [exporting, Form.enters, Kind.isFunctionDeclaration, Kind.isClass,
      Kind.isVariableDeclaration, Kind.isFunctionValue]
  by_cases statement : cursor.node.kind = .expressionStatement
  · simp [statement, Form.enters, Kind.isFunctionDeclaration, Kind.isClass,
      Kind.isVariableDeclaration, Kind.isFunctionValue]
  by_cases value : cursor.node.kind.isFunctionValue
  · by_cases transparent : cursor.isTransparent <;>
      simp [function, isClass, declares, importing, exporting, statement, value, transparent,
        Form.enters]
  · simp [function, isClass, declares, importing, exporting, statement, value, Form.enters]

section Reached

variable {source : Source} {aliases : Aliases}

theorem isReached_root (node : Node) : (Cursor.root node).isReached source aliases := by
  simp [isReached, ancestors, Cursor.root, alongFrames]

theorem isReached_child {cursor child : Cursor} (reached : cursor.isReached source aliases)
    (clear : cursor.isOpaque source aliases = false) (member : child ∈ cursor.children) :
    child.isReached source aliases := by
  unfold isReached at *
  rw [ancestors_of_mem_children member, List.all_cons, clear, reached]
  rfl

/-- Nothing below an opaque node is reached. -/
theorem reachedFrom_children_of_isOpaque {cursor : Cursor}
    (sealed : cursor.isOpaque source aliases) :
    reachedFrom source aliases cursor.children = [] := by
  unfold reachedFrom
  apply List.filter_eq_nil_iff.mpr
  intro descendant member reached
  have above := mem_ancestors_of_mem_walk_children member
  have clear := List.all_eq_true.mp reached cursor above
  simp [sealed] at clear

theorem reachedFrom_cons {cursor : Cursor} (reached : cursor.isReached source aliases)
    (rest : List Cursor) :
    reachedFrom source aliases (cursor :: rest) =
      cursor :: if cursor.isOpaque source aliases then reachedFrom source aliases rest
        else reachedFrom source aliases (cursor.children ++ rest) := by
  have split : reachedFrom source aliases (cursor :: rest) =
      cursor :: (reachedFrom source aliases cursor.children ++ reachedFrom source aliases rest) := by
    simp [reachedFrom, walk_cons, reached]
  rw [split]
  by_cases sealed : cursor.isOpaque source aliases
  · simp [sealed, reachedFrom_children_of_isOpaque sealed]
  · simp [sealed, reachedFrom, walk_append]

/-- The children of a reached node that is not opaque keep a stack reached. -/
theorem isReached_stack {cursor : Cursor} {rest : List Cursor}
    (reached : ∀ item ∈ cursor :: rest, item.isReached source aliases)
    (clear : cursor.isOpaque source aliases = false) :
    ∀ item ∈ cursor.children ++ rest, item.isReached source aliases := by
  intro item member
  rcases List.mem_append.mp member with child | other
  · exact isReached_child (reached cursor (by simp)) clear child
  · exact reached item (by simp [other])

/-- What belongs to a visited node: its whole subtree if the walk does not go on below it, else
the node alone. -/
def territory (source : Source) (aliases : Aliases) (cursor : Cursor) : List Node :=
  if cursor.isOpaque source aliases then cursor.node.preorder else [cursor.node]

/-- The territories of the reached nodes divide the tree in pre-order. -/
theorem flatMap_territory (stack : List Cursor)
    (reached : ∀ item ∈ stack, item.isReached source aliases) :
    (reachedFrom source aliases stack).flatMap (territory source aliases) =
      Node.preorders (stack.map (·.node)) := by
  induction stack using stackInduction with
  | nil => simp [reachedFrom, Node.preorders]
  | cons cursor rest skipped entered =>
    have first := reached cursor (by simp)
    have others : ∀ item ∈ rest, item.isReached source aliases :=
      fun item member => reached item (by simp [member])
    rw [reachedFrom_cons first, List.flatMap_cons, List.map_cons, Node.preorders]
    by_cases sealed : cursor.isOpaque source aliases
    · rw [if_pos sealed, skipped others, territory, if_pos sealed]
    · rw [if_neg sealed, entered (isReached_stack reached (by simpa using sealed)),
        territory, if_neg sealed, List.map_append, map_node_children,
        Node.preorders_append, Node.preorder_eq]
      simp

end Reached

namespace Context

theorem visitOne_snd (context : Context) (aliases : Aliases) (cursor : Cursor) (table : Table) :
    (context.visitOne aliases cursor table).2 = !cursor.isOpaque context.source aliases :=
  Form.enters_of context.source aliases cursor

/-- The stack loop is a fold over the reached cursors. -/
theorem visit_eq_foldl (context : Context) (aliases : Aliases) (stack : List Cursor)
    (table : Table) (reached : ∀ item ∈ stack, item.isReached context.source aliases) :
    context.visit aliases stack table =
      (reachedFrom context.source aliases stack).foldl
        (fun table cursor => (context.visitOne aliases cursor table).1) table := by
  induction stack using stackInduction generalizing table with
  | nil => simp [visit, reachedFrom]
  | cons cursor rest skipped entered =>
    have others : ∀ item ∈ rest, item.isReached context.source aliases :=
      fun item member => reached item (by simp [member])
    rw [visit, reachedFrom_cons (reached cursor (by simp)), List.foldl_cons]
    simp only [visitOne_snd]
    by_cases sealed : cursor.isOpaque context.source aliases
    · simp only [sealed, Bool.not_true, Bool.false_eq_true, ↓reduceIte]
      exact skipped _ others
    · simp only [sealed, Bool.not_false, ↓reduceIte, Bool.false_eq_true]
      exact entered _ (isReached_stack reached (by simpa using sealed))

theorem isReached_singleton {source : Source} {aliases : Aliases} (root : Node) :
    ∀ item ∈ [Cursor.root root], item.isReached source aliases := by
  intro item member
  rw [List.mem_singleton.mp member]
  exact isReached_root root

/-- The exact reach of the walk. A node is opaque by its place, the source and the aliases,
whatever the tables hold, however the scans are limited and whether or not the work is cancelled;
and the stack loop does to the tables what visiting one by one, in pre-order, the nodes below no
opaque node does. -/
theorem visit_exactly_reached (source : Source) (aliases : Aliases) (root : Node)
    (limits : CallLimits) (cancelled : Bool) (table : Table) :
    (∀ cursor : Cursor,
      ((⟨source, limits, cancelled⟩ : Context).visitOne aliases cursor table).2 =
        !cursor.isOpaque source aliases) ∧
    (⟨source, limits, cancelled⟩ : Context).visit aliases [.root root] table =
      ((walk [.root root]).filter fun cursor =>
          cursor.ancestors.all fun above => !above.isOpaque source aliases).foldl
        (fun table cursor =>
          ((⟨source, limits, cancelled⟩ : Context).visitOne aliases cursor table).1) table ∧
    (∀ number, (walk [.root root])[number]? = Cursor.numbered? root number) ∧
    (walk [.root root]).map (·.node) = root.preorder ∧
    (walk [.root root]).Nodup := by
  refine ⟨fun cursor => visitOne_snd _ aliases cursor table, ?_, ?_, ?_, nodup_walk _⟩
  · exact visit_eq_foldl _ aliases _ table (isReached_singleton root)
  · intro number
    exact getElem?_walk _ number
  · rw [map_node_walk]
    simp [Node.preorders, Cursor.root]

end Context
end ScriptAtlas
