import ScriptAtlas.Proofs.Reach
import Mathlib.Data.List.Forall2

/-! What the walk leaves in the tables of a file. The tables are the contributions of the reached
nodes put together; only an inheritance edge reaches back, to one symbol and its metadata. -/
namespace ScriptAtlas
open SyntaxTree

/-- Record an edge in a list of symbols, at the first one with the child's name. -/
def Edge.applyTo (edge : Edge) (symbols : List Symbol) : List Symbol :=
  symbols.modify (symbols.findIdx (·.name == edge.child)) (·.setParent edge.parent)

theorem mem_modify {α : Type} {change : α → α} {item : α} {items : List α} {index : Nat}
    (member : item ∈ items.modify index change) : item ∈ items ∨ ∃ old ∈ items, item = change old := by
  induction items generalizing index with
  | nil => simp at member
  | cons first rest ih =>
    cases index with
    | zero =>
      rw [List.modify_zero_cons] at member
      rcases List.mem_cons.mp member with same | later
      · exact .inr ⟨first, by simp, same⟩
      · exact .inl (by simp [later])
    | succ index =>
      rw [List.modify_succ_cons] at member
      rcases List.mem_cons.mp member with same | later
      · exact .inl (by simp [same])
      · rcases ih later with kept | ⟨old, present, changed⟩
        · exact .inl (by simp [kept])
        · exact .inr ⟨old, by simp [present], changed⟩

theorem map_modify_of_eq {α β : Type} {change : α → α} {view : α → β}
    (unseen : ∀ item, view (change item) = view item) (items : List α) (index : Nat) :
    (items.modify index change).map view = items.map view := by
  induction items generalizing index with
  | nil => simp
  | cons first rest ih =>
    cases index with
    | zero => simp [unseen]
    | succ index => simp [ih]

theorem forall₂_modify {α β : Type} {related : α → β → Prop} {left : List α} {right : List β}
    {change : α → α} {change' : β → β} (pairs : List.Forall₂ related left right)
    (step : ∀ item item', related item item' → related (change item) (change' item'))
    (index : Nat) :
    List.Forall₂ related (left.modify index change) (right.modify index change') := by
  induction pairs generalizing index with
  | nil => simp
  | cons head _ ih =>
    cases index with
    | zero => exact .cons (step _ _ head) ‹_›
    | succ index => exact .cons head (ih index)

namespace Table

theorem inherit_symbols (table : Table) (edge : Edge) :
    (table.inherit edge).symbols.toList = edge.applyTo table.symbols.toList := by
  obtain ⟨⟨symbols⟩, imports, published, notices⟩ := table
  unfold inherit Edge.applyTo
  rw [List.findIdx?_toArray]
  cases found : symbols.findIdx? (·.name == edge.child) with
  | none =>
    have absent := List.findIdx?_eq_none_iff_findIdx_eq.mp found
    rw [absent, List.modify_eq_self (Nat.le_refl _)]
  | some index =>
    have place := (List.findIdx?_eq_some_iff_findIdx_eq.mp found).2
    simp [place]

/-- The symbols after a contribution: the new ones at the end, then its edge. -/
theorem absorb_symbols (table : Table) (part : Contribution) :
    (table.absorb part).symbols.toList =
      part.edge.elim (table.symbols.toList ++ part.symbols)
        (·.applyTo (table.symbols.toList ++ part.symbols)) := by
  unfold absorb
  cases part.edge with
  | none => simp
  | some edge => simp [inherit_symbols]

theorem inherit_imports (table : Table) (edge : Edge) :
    (table.inherit edge).imports = table.imports := by
  unfold inherit
  split <;> rfl

theorem absorb_imports (table : Table) (part : Contribution) :
    (table.absorb part).imports.toList = table.imports.toList ++ part.imports := by
  unfold absorb
  cases part.edge <;> simp [inherit_imports]

theorem absorb_published (table : Table) (part : Contribution) :
    (table.absorb part).published = part.published ++ table.published := by
  unfold absorb
  cases part.edge with
  | none => rfl
  | some edge =>
    simp only [inherit]
    split <;> rfl

theorem foldl_absorb_imports (parts : List Contribution) (table : Table) :
    (parts.foldl absorb table).imports.toList =
      table.imports.toList ++ parts.flatMap (·.imports) := by
  induction parts generalizing table with
  | nil => simp
  | cons part rest ih => simp [ih, absorb_imports]

/-- A property of symbols that an edge cannot break holds of the tables if it holds of all that
is added to them. -/
theorem foldl_absorb_forall {property : Symbol → Prop}
    (kept : ∀ symbol parent, property symbol → property (symbol.setParent parent))
    (parts : List Contribution) (table : Table)
    (before : ∀ symbol ∈ table.symbols.toList, property symbol)
    (added : ∀ part ∈ parts, ∀ symbol ∈ part.symbols, property symbol) :
    ∀ symbol ∈ (parts.foldl absorb table).symbols.toList, property symbol := by
  induction parts generalizing table with
  | nil => exact before
  | cons part rest ih =>
    apply ih (table.absorb part) _ fun other member => added other (by simp [member])
    have joined : ∀ symbol ∈ table.symbols.toList ++ part.symbols, property symbol := by
      intro symbol member
      rcases List.mem_append.mp member with old | new
      · exact before symbol old
      · exact added part (by simp) symbol new
    rw [absorb_symbols]
    cases part.edge with
    | none => exact joined
    | some edge =>
      intro symbol member
      rcases mem_modify member with old | ⟨old, present, rfl⟩
      · exact joined symbol old
      · exact kept old edge.parent (joined old present)

/-- A view of symbols that an edge cannot change is that of all that is added, in order. -/
theorem foldl_absorb_map {α : Type} {view : Symbol → α}
    (unseen : ∀ symbol parent, view (symbol.setParent parent) = view symbol)
    (parts : List Contribution) (table : Table) :
    (parts.foldl absorb table).symbols.toList.map view =
      table.symbols.toList.map view ++ parts.flatMap (·.symbols.map view) := by
  induction parts generalizing table with
  | nil => simp
  | cons part rest ih =>
    have step : (table.absorb part).symbols.toList.map view =
        table.symbols.toList.map view ++ part.symbols.map view := by
      rw [absorb_symbols]
      cases part.edge with
      | none => simp
      | some edge => simp [Edge.applyTo, map_modify_of_eq (unseen · edge.parent)]
    rw [List.foldl_cons, ih, step]
    simp

end Table

namespace Context

/-- What the node of a cursor adds to the tables. -/
def contributionAt (context : Context) (aliases : Aliases) (cursor : Cursor) : Contribution :=
  (Form.of context.source aliases cursor).contribution context cursor

/-- The contributions of a whole file, in the order of the walk. -/
def contributions (context : Context) (aliases : Aliases) (root : Node) : List Contribution :=
  (Cursor.reachedFrom context.source aliases [.root root]).map (context.contributionAt aliases)

theorem tables_eq_foldl (context : Context) (aliases : Aliases) (root : Node) :
    context.tables aliases root = (context.contributions aliases root).foldl Table.absorb {} := by
  rw [tables, visit_eq_foldl _ _ _ _ (isReached_singleton root), contributions, List.foldl_map]
  rfl

theorem tables_imports (context : Context) (aliases : Aliases) (root : Node) :
    (context.tables aliases root).imports.toList =
      (context.contributions aliases root).flatMap (·.imports) := by
  rw [tables_eq_foldl, Table.foldl_absorb_imports]
  simp

/-- Nodes are reached inside the tree only. -/
theorem node_within {source : Source} {aliases : Aliases} {root : Node} {cursor : Cursor}
    (member : cursor ∈ Cursor.reachedFrom source aliases [.root root]) :
    cursor.node.Within root := by
  obtain ⟨start, present, inside⟩ := Cursor.within_of_mem_walk (List.mem_filter.mp member).1
  obtain rfl := List.mem_singleton.mp present
  exact inside

end Context
end ScriptAtlas
