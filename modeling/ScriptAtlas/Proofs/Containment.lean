import ScriptAtlas.Proofs.LastPass
import ScriptAtlas.Proofs.Shape
import Mathlib.Data.Prod.Lex

/-! Ranges within ranges. The order of offsets in a file carries over to the order of lines and
columns, so that symbols enclose what is read from the nodes below their own: their calls and, if
they are declared classes, their members. -/
namespace ScriptAtlas
open SyntaxTree

namespace SyntaxTree.Node

/-- A tree whose nodes do not end before they start, and whose children lie in their parents. -/
def Nested (root : Node) : Prop :=
  ∀ node ∈ root.preorder, node.start ≤ node.stop ∧
    ∀ child ∈ node.children, node.start ≤ child.start ∧ child.stop ≤ node.stop

instance (root : Node) : Decidable root.Nested :=
  inferInstanceAs (Decidable (∀ node ∈ root.preorder, _ ∧ ∀ child ∈ node.children, _ ∧ _))

theorem Nested.within {node root : Node} (nested : root.Nested) (inside : node.Within root) :
    node.Nested :=
  fun part present => nested part (inside.subset present)

/-- In a nested tree every node lies in the range of the root. -/
theorem Nested.encloses {root node : Node} (nested : root.Nested) (present : node ∈ root.preorder) :
    root.start ≤ node.start ∧ node.stop ≤ root.stop := by
  rw [preorder_eq, preorders_eq_flatMap] at present
  rcases List.mem_cons.mp present with rfl | below
  · exact ⟨Nat.le_refl _, Nat.le_refl _⟩
  · -- The node lies in a child, whose subtree is smaller, and the child lies in the root.
    obtain ⟨child, member, inside⟩ := List.mem_flatMap.mp below
    have smaller := size_lt_of_mem member
    have inChild := (nested.within (within_of_mem member)).encloses inside
    have inRoot := (nested root root.mem_preorder_self).2 child member
    exact ⟨Nat.le_trans inRoot.1 inChild.1, Nat.le_trans inChild.2 inRoot.2⟩
termination_by root.size

end SyntaxTree.Node

namespace Location

/-- Where a range begins. -/
def start (location : Location) : ℕ ×ₗ ℕ :=
  toLex (location.startLine.toNat, location.startColumn.toNat)

/-- Where a range ends. -/
def stop (location : Location) : ℕ ×ₗ ℕ :=
  toLex (location.endLine.toNat, location.endColumn.toNat)

/-- One range begins no later and ends no earlier than another. -/
structure Encloses (outer inner : Location) : Prop where
  start : outer.start ≤ inner.start
  stop : inner.stop ≤ outer.stop

end Location

namespace Source

/-- The line and the column of an offset as a range records them. -/
def point (source : Source) (offset : Nat) : ℕ ×ₗ ℕ :=
  toLex ((source.row offset + 1).toUInt32.toNat, (source.column offset).toUInt32.toNat)

theorem column_le (source : Source) (offset : Nat) : source.column offset ≤ offset := by
  unfold column
  split
  · exact Nat.le_refl _
  · exact Nat.sub_le _ _

/-- Between two offsets of one line there is no line break, so that their columns count from the
same one. -/
theorem column_le_column (source : Source) {first second : Nat} (before : first ≤ second)
    (sameRow : source.row first = source.row second) :
    source.column first ≤ source.column second := by
  have breaks : source.breaksBefore first = source.breaksBefore second :=
    (source.breaksBefore_mono before).eq_of_length sameRow
  unfold column
  rw [breaks]
  split
  · exact before
  · exact Nat.sub_le_sub_right before _

/-- Numbers of 32 bits hold the lines and columns of a file that is not too large. -/
theorem point_eq {source : Source} {offset : Nat} (small : source.bytes.size < UInt32.size - 1)
    (bounded : offset < UInt32.size) :
    source.point offset = toLex (source.row offset + 1, source.column offset) := by
  have line : source.row offset + 1 < UInt32.size := by
    have last := source.row_le_size offset
    omega
  have column : source.column offset < UInt32.size :=
    Nat.lt_of_le_of_lt (source.column_le offset) bounded
  rw [point, Nat.toUInt32, UInt32.toNat_ofNat_of_lt' line, UInt32.toNat_ofNat_of_lt' column]

/-- Later offsets have later lines and columns. -/
theorem point_le_point {source : Source} {first second : Nat}
    (small : source.bytes.size < UInt32.size - 1) (before : first ≤ second)
    (bounded : second < UInt32.size) : source.point first ≤ source.point second := by
  have alsoBounded := Nat.lt_of_le_of_lt before bounded
  rw [point_eq small bounded, point_eq small alsoBounded, Prod.Lex.toLex_le_toLex']
  constructor
  · exact Nat.succ_le_succ (source.row_le_row before)
  · intro sameLine
    exact source.column_le_column before (Nat.succ.inj sameLine)

/-- A nested tree with offsets of 32 bits, and a file whose lines can be counted with them. -/
structure Fits (source : Source) (root : Node) : Prop where
  small : source.bytes.size < UInt32.size - 1
  nested : root.Nested
  bounded : root.stop < UInt32.size

namespace Fits

variable {source : Source} {root node : Node}

theorem within (fits : source.Fits root) (inside : node.Within root) : source.Fits node where
  small := fits.small
  nested := fits.nested.within inside
  bounded := Nat.lt_of_le_of_lt (fits.nested.encloses inside.mem).2 fits.bounded

theorem ordered (fits : source.Fits root) :
    (source.location root).start ≤ (source.location root).stop :=
  point_le_point fits.small (fits.nested root root.mem_preorder_self).1 fits.bounded

theorem encloses (fits : source.Fits root) (present : node ∈ root.preorder) :
    (source.location root).Encloses (source.location node) := by
  have ⟨start, stop⟩ := fits.nested.encloses present
  have ordered := (fits.nested node present).1
  constructor
  · apply point_le_point fits.small start
    exact Nat.lt_of_le_of_lt (Nat.le_trans ordered stop) fits.bounded
  · exact point_le_point fits.small stop fits.bounded

end Fits
end Source

namespace Symbol

/-- A symbol that ends no earlier than it begins, and encloses its calls. -/
structure Spans (symbol : Symbol) : Prop where
  ordered : symbol.location.start ≤ symbol.location.stop
  calls : ∀ call ∈ symbol.calls, symbol.location.Encloses call.location

/-- A symbol that encloses its members as well. -/
structure Contains (symbol : Symbol) : Prop extends Spans symbol where
  members : ∀ child ∈ symbol.children, symbol.location.Encloses child.location

variable {symbol : Symbol}

theorem Contains.promote (contains : symbol.Contains) (function : Node) :
    (symbol.promote function).Contains := by
  unfold Symbol.promote
  split
  · exact { contains with }
  · exact contains

theorem Contains.setParent (contains : symbol.Contains) (parent : String) :
    (symbol.setParent parent).Contains :=
  { contains with }

theorem Contains.publish (contains : symbol.Contains) (aliases : Aliases)
    (published : List String) : (symbol.publish aliases published).Contains := by
  rw [publish_eq]
  exact { contains with }

end Symbol

namespace Context

variable {context : Context} {node : Node} {symbol : Symbol}

theorem calls_within {anchor function : Node} (inside : function.Within anchor) :
    ∀ call ∈ (context.bodyOf function).calls,
      ∃ part ∈ anchor.preorder, call.location = context.source.location part := by
  intro call member
  obtain ⟨part, present, same⟩ := bodyOf_location member
  exact ⟨part, inside.subset present, same⟩

/-- A symbol encloses the calls of a function that lies within its node. -/
theorem symbolAt_contains {source : Source} {cursor : Cursor} {name : String} {kind : SymbolKind}
    {options : Source.SymbolOptions} (fits : source.Fits cursor.node)
    (calls : ∀ call ∈ options.calls,
      ∃ part ∈ cursor.node.preorder, call.location = source.location part) :
    (source.symbolAt cursor name kind options).Contains where
  ordered := fits.ordered
  calls := by
    intro call member
    obtain ⟨part, present, same⟩ := calls call member
    rw [same]
    exact fits.encloses present
  members := by simp

theorem ClassMember.contains {owner : String} {cursor : Cursor} {declared : Declared}
    (member : context.ClassMember owner cursor declared)
    (fits : context.source.Fits cursor.node) : declared.symbol.Contains where
  ordered := by
    rw [member.place]
    exact fits.ordered
  calls := by
    rw [member.place]
    rcases member.body with ⟨none, _⟩ | ⟨function, inside, calls, _⟩
    · simp [none]
    · intro call present
      rw [calls] at present
      obtain ⟨part, below, same⟩ := calls_within inside call present
      rw [same]
      exact fits.encloses below
  members := by simp [member.leaf]

/-- However a symbol is declared, it and its members enclose what belongs to them. -/
theorem Declares.contained (declares : context.Declares node symbol)
    (fits : context.source.Fits node) : symbol.Throughout Symbol.Contains := by
  cases declares with
  | function anchor function name exported docComment place inside =>
    apply Symbol.throughout_of_leaf
    · apply Symbol.Contains.promote
      exact symbolAt_contains (fits.within place) (calls_within inside)
    · simp [functionSymbol]
  | classType cursor name exported docComment place named =>
    have fitsClass := fits.within place
    apply Symbol.throughout_of_members
    · exact {
        ordered := fitsClass.ordered
        calls := by simp [classSymbol]
        members := by
          intro child member
          obtain ⟨declared, present, rfl⟩ := List.mem_map.mp member
          obtain ⟨spot, inside, spec⟩ := classMembers_spec present
          rw [spec.place]
          exact fitsClass.encloses inside.mem }
    · intro child member
      obtain ⟨declared, present, rfl⟩ := List.mem_map.mp member
      obtain ⟨spot, inside, spec⟩ := classMembers_spec present
      exact Symbol.throughout_of_leaf (spec.contains (fitsClass.within inside)) spec.leaf
  | variableBinding declaration declarator kind name value? place binds =>
    apply Symbol.throughout_of_leaf
    · exact symbolAt_contains (fits.within place) (by simp)
    · rfl
  | assigned statement function docComment target place inside named =>
    have contains (kind : SymbolKind) (options : Source.SymbolOptions)
        (calls : options.calls = (context.bodyOf function).calls) :
        (context.source.symbolAt statement target.name kind options).Contains :=
      symbolAt_contains (fits.within place) (calls ▸ calls_within inside)
    unfold assignedSymbol
    cases target.owner with
    | some owner => exact Symbol.throughout_of_leaf (contains _ _ rfl) rfl
    | none => exact Symbol.throughout_of_leaf ((contains _ _ rfl).promote function) (by simp)
  | literal owner method place inside named =>
    apply Symbol.throughout_of_leaf
    · exact symbolAt_contains (fits.within place) (calls_within inside)
    · rfl

end Context

/-- The class of the aliases has no calls; its members may stand anywhere in the file. -/
theorem Aliases.syntheticClass_spans {source : Source} {symbols : List Symbol} (aliases : Aliases)
    (all : ∀ symbol ∈ symbols, symbol.Throughout Symbol.Contains) :
    (aliases.syntheticClass source symbols).Throughout Symbol.Spans := by
  apply Symbol.throughout_of_members
  · refine ⟨?_, by simp [syntheticClass]⟩
    rcases aliases.location_cases source.path symbols with ⟨symbol, present, same⟩ | same
    · simp only [syntheticClass, same]
      exact (all symbol present).own.ordered
    · simp only [syntheticClass, same]
      exact le_refl _
  · intro child member
    have contained := all child (List.mem_filter.mp member).1
    exact contained.mono fun _ contains => contains.toSpans

/-- In a nested tree every symbol, at any depth, ends no earlier than it begins and encloses its
calls. Symbols that the walk has left enclose their members; the class of the aliases may not, but
has no calls. The offsets of a tree lie in its file and so are numbers of 32 bits. -/
theorem Context.extract_encloses (context : Context) (includePrivate : Bool) (language : String)
    (root : Node) (small : context.source.bytes.size < UInt32.size - 1) (nested : root.Nested)
    (bounded : root.stop < UInt32.size) :
    let aliases := Aliases.resolve context.source root
    let table := context.tables aliases root
    let declared := table.symbols.toList.map (·.publish aliases table.published)
    let synthetic? := aliases.synthetic? context.source declared
    let result := (context.extract includePrivate language root).extraction.symbols
    (∀ symbol ∈ result, symbol.Throughout Symbol.Spans) ∧
    result = visibleSymbols includePrivate (declared ++ synthetic?.toList) ∧
    (∀ symbol ∈ declared, symbol.Throughout Symbol.Contains) ∧
    ∀ made ∈ synthetic?, made.calls = [] := by
  intro aliases table declared synthetic? result
  have fits : context.source.Fits root := ⟨small, nested, bounded⟩
  have lasting : context.Lasting root (Symbol.Throughout Symbol.Contains) :=
    .throughout (fun inside declares => declares.contained (fits.within inside))
      (fun parent contains => contains.setParent parent)
      (fun aliases published contains => contains.publish aliases published)
  refine ⟨?_, rfl, lasting.marked aliases table.published, ?_⟩
  · exact lasting.extract (fun _ all => all.mono fun _ contains => contains.toSpans)
      (fun _ all => Aliases.syntheticClass_spans _ all) includePrivate language
  · intro made member
    obtain ⟨_, _, rfl⟩ := Aliases.synthetic?_eq_some_iff.mp member
    rfl

/-- On one line: the class, in it its method, in that one the call. -/
theorem Context.extract_encloses_sampleClass :
    sampleContext.source.bytes.size < UInt32.size - 1 ∧ sampleClass.Nested ∧
    sampleClass.stop < UInt32.size ∧
    (sampleContext.extract true "javascript" sampleClass).extraction.symbols.flatMap
        (fun symbol => symbol.children.flatMap fun child => child.calls.map fun call =>
          [symbol.location.startColumn, child.location.startColumn, call.location.startColumn,
            call.location.endColumn, child.location.endColumn, symbol.location.endColumn]) =
      [[0, 8, 12, 15, 16, 17]] ∧
    ∀ symbol ∈ (sampleContext.extract true "javascript" sampleClass).extraction.symbols,
      symbol.Throughout Symbol.Spans := by
  have small : sampleContext.source.bytes.size < UInt32.size - 1 := by decide +kernel
  have nested : sampleClass.Nested := by decide
  have bounded : sampleClass.stop < UInt32.size := by decide
  exact ⟨small, nested, bounded, by decide +kernel,
    (extract_encloses sampleContext true "javascript" sampleClass small nested bounded).1⟩

end ScriptAtlas
