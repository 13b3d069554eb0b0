import ScriptAtlas.Proofs.Declarations
import ScriptAtlas.Proofs.Tables

/-! Properties of whole extractions. What symbols are declared with and keep through edges and
publication holds of all that the walk leaves, and from there of the result, if it also holds of
the class made for the aliases. Such a property is often one of a symbol and all its members. -/
namespace ScriptAtlas
open SyntaxTree

namespace Symbol

/-- One symbol is another or, at any depth, a member of it. -/
inductive Within : Symbol → Symbol → Prop where
  | self (symbol : Symbol) : Within symbol symbol
  | member {part child symbol : Symbol} (belongs : child ∈ symbol.children)
      (inside : Within part child) : Within part symbol

/-- A property of a symbol and of all its members. -/
def Throughout (property : Symbol → Prop) (symbol : Symbol) : Prop :=
  ∀ part : Symbol, part.Within symbol → property part

section Throughout

variable {property : Symbol → Prop} {symbol : Symbol}

theorem throughout_of_members (own : property symbol)
    (members : ∀ child ∈ symbol.children, child.Throughout property) :
    symbol.Throughout property := by
  intro part inside
  cases inside with
  | self => exact own
  | member belongs deeper => exact members _ belongs part deeper

theorem throughout_of_leaf (own : property symbol) (leaf : symbol.children = []) :
    symbol.Throughout property := by
  apply throughout_of_members own
  simp [leaf]

theorem Throughout.own (all : symbol.Throughout property) : property symbol :=
  all symbol (.self symbol)

theorem Throughout.member (all : symbol.Throughout property) {child : Symbol}
    (belongs : child ∈ symbol.children) : child.Throughout property := by
  intro part inside
  exact all part (.member belongs inside)

theorem Throughout.mono (all : symbol.Throughout property) {weaker : Symbol → Prop}
    (implies : ∀ part, property part → weaker part) : symbol.Throughout weaker := by
  intro part inside
  exact implies part (all part inside)

/-- A change that leaves the members alone has to keep the property of the symbol itself. -/
theorem Throughout.replace (all : symbol.Throughout property) {changed : Symbol}
    (own : property changed) (members : changed.children = symbol.children) :
    changed.Throughout property := by
  apply throughout_of_members own
  intro child belongs
  rw [members] at belongs
  exact all.member belongs

end Throughout
end Symbol

/-- The class of the aliases stands where one of the symbols stands, or on the first line. -/
theorem Aliases.location_cases (aliases : Aliases) (path : String) (symbols : List Symbol) :
    (∃ symbol ∈ symbols, aliases.location path symbols = symbol.location) ∨
      aliases.location path symbols = ⟨path, 1, 0, 1, 0⟩ := by
  unfold location
  cases found : aliases.names.head?.bind fun first => symbols.find? (·.name == first) with
  | none => exact .inr rfl
  | some symbol =>
    obtain ⟨first, _, present⟩ := Option.bind_eq_some_iff.mp found
    exact .inl ⟨symbol, List.mem_of_find?_eq_some present, rfl⟩

theorem mem_of_mem_visibleSymbols {includePrivate : Bool} {symbols : List Symbol} {symbol : Symbol}
    (member : symbol ∈ visibleSymbols includePrivate symbols) : symbol ∈ symbols := by
  unfold visibleSymbols at member
  split at member
  · exact member
  · exact (List.mem_filter.mp member).1

namespace Context

/-- A property that symbols are declared with and that neither an edge nor publication breaks. -/
structure Lasting (context : Context) (root : Node) (property : Symbol → Prop) : Prop where
  declared : ∀ {node symbol}, node.Within root → context.Declares node symbol → property symbol
  linked : ∀ {symbol} parent, property symbol → property (symbol.setParent parent)
  published : ∀ {symbol} aliases published, property symbol →
    property (symbol.publish aliases published)

namespace Lasting

variable {context : Context} {root : Node} {property : Symbol → Prop}

/-- Edges and publication leave the members of a symbol alone. -/
theorem throughout
    (declared : ∀ {node symbol}, node.Within root → context.Declares node symbol →
      symbol.Throughout property)
    (linked : ∀ {symbol} parent, property symbol → property (symbol.setParent parent))
    (published : ∀ {symbol} aliases published, property symbol →
      property (symbol.publish aliases published)) :
    context.Lasting root (Symbol.Throughout property) where
  declared := declared
  linked := fun parent all => all.replace (linked parent all.own) rfl
  published := fun aliases names all => by
    apply all.replace (published aliases names all.own)
    unfold Symbol.publish
    split <;> rfl

theorem and {other : Symbol → Prop} (first : context.Lasting root property)
    (second : context.Lasting root other) :
    context.Lasting root fun symbol => property symbol ∧ other symbol where
  declared := fun inside declares =>
    ⟨first.declared inside declares, second.declared inside declares⟩
  linked := fun parent both => ⟨first.linked parent both.1, second.linked parent both.2⟩
  published := fun aliases names both =>
    ⟨first.published aliases names both.1, second.published aliases names both.2⟩

/-- A lasting property holds of all symbols that the walk leaves in the tables. -/
theorem tables (lasting : context.Lasting root property) (aliases : Aliases) :
    ∀ symbol ∈ (context.tables aliases root).symbols.toList, property symbol := by
  rw [tables_eq_foldl]
  refine Table.foldl_absorb_forall (fun _ parent holds => lasting.linked parent holds) _ _ ?_ ?_
  · simp
  · intro part member symbol added
    obtain ⟨cursor, reached, rfl⟩ := List.mem_map.mp member
    exact lasting.declared (node_within reached) (contribution_declares added)

theorem marked (lasting : context.Lasting root property) (aliases : Aliases)
    (published : List String) :
    ∀ symbol ∈ (context.tables aliases root).symbols.toList.map (·.publish aliases published),
      property symbol := by
  intro symbol member
  obtain ⟨old, present, rfl⟩ := List.mem_map.mp member
  exact lasting.published aliases published (lasting.tables aliases old present)

/-- What a lasting property settles holds of the result, if the class of the aliases has it. -/
theorem extract (lasting : context.Lasting root property) {result : Symbol → Prop}
    (settled : ∀ symbol, property symbol → result symbol)
    (made : ∀ symbols : List Symbol, (∀ symbol ∈ symbols, property symbol) →
      result ((Aliases.resolve context.source root).syntheticClass context.source symbols))
    (includePrivate : Bool) (language : String) :
    ∀ symbol ∈ (context.extract includePrivate language root).extraction.symbols,
      result symbol := by
  intro symbol member
  have complete := mem_of_mem_visibleSymbols member
  have marked := lasting.marked (Aliases.resolve context.source root)
    (context.tables (Aliases.resolve context.source root) root).published
  rcases List.mem_append.mp complete with old | new
  · exact settled symbol (marked symbol old)
  · unfold Aliases.synthetic? at new
    split at new
    · simp at new
    · obtain rfl := List.mem_singleton.mp new
      exact made _ marked

end Lasting
end Context
end ScriptAtlas
