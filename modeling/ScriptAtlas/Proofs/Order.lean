import ScriptAtlas.Proofs.Declarations
import ScriptAtlas.Proofs.Tables
import Mathlib.Data.List.Flatten

/-! Source order. What a visited node adds stands inside its territory and in the order of the
text, so the imports of a file come from nodes further and further on, no node giving two of them,
and its symbols never go back; the members of a class come in the order of its body. -/
namespace ScriptAtlas
open SyntaxTree

/-- Items taken from a list in order, where one entry may be taken several times. -/
inductive DrawnFrom {α : Type} : List α → List α → Prop where
  | nil (places : List α) : DrawnFrom [] places
  | skip {items places : List α} (place : α) (rest : DrawnFrom items places) :
      DrawnFrom items (place :: places)
  | take {items places : List α} (place : α) (rest : DrawnFrom items (place :: places)) :
      DrawnFrom (place :: items) (place :: places)

namespace DrawnFrom

variable {α : Type} {items others places spots : List α}

theorem appendLeft (drawn : DrawnFrom items places) (spots : List α) :
    DrawnFrom items (spots ++ places) := by
  induction spots with
  | nil => exact drawn
  | cons spot rest ih => exact .skip spot ih

theorem append (first : DrawnFrom items places) (second : DrawnFrom others spots) :
    DrawnFrom (items ++ others) (places ++ spots) := by
  induction first with
  | nil places => exact second.appendLeft places
  | skip place _ ih => exact .skip place ih
  | take place _ ih => exact .take place ih

theorem mono (drawn : DrawnFrom items places) (wider : places.Sublist spots) :
    DrawnFrom items spots := by
  induction wider generalizing items with
  | slnil => exact drawn
  | cons spot _ ih => exact .skip spot (ih drawn)
  | cons_cons spot _ ih =>
    -- The place stays at the head while it is taken from, so the way it was drawn decides.
    generalize same : spot :: _ = entered at drawn
    induction drawn with
    | nil => exact .nil _
    | skip place rest _ =>
      cases same
      exact .skip spot (ih rest)
    | take place _ again =>
      cases same
      exact .take spot (again rfl)

theorem of_forall_eq {place : α} (member : place ∈ places) (same : ∀ item ∈ items, item = place) :
    DrawnFrom items places := by
  refine mono ?_ (List.singleton_sublist.mpr member)
  induction items with
  | nil => exact .nil _
  | cons item rest ih =>
    obtain rfl := same item (by simp)
    exact .take item (ih fun other present => same other (by simp [present]))

theorem flatMap {β : Type} {entries : List β} {give area : β → List α}
    (each : ∀ entry ∈ entries, DrawnFrom (give entry) (area entry)) :
    DrawnFrom (entries.flatMap give) (entries.flatMap area) := by
  induction entries with
  | nil => exact .nil _
  | cons entry rest ih =>
    rw [List.flatMap_cons, List.flatMap_cons]
    exact (each entry (by simp)).append (ih fun other present => each other (by simp [present]))

/-- The positions of items taken in order never go back. -/
theorem exists_numbers (drawn : DrawnFrom items places) :
    ∃ numbers : List Nat, numbers.Pairwise (· ≤ ·) ∧
      List.Forall₂ (fun number item => places[number]? = some item) numbers items := by
  induction drawn with
  | nil places => exact ⟨[], .nil, .nil⟩
  | skip place _ ih =>
    obtain ⟨numbers, ordered, found⟩ := ih
    refine ⟨numbers.map (· + 1), ?_, ?_⟩
    · exact ordered.map _ fun _ _ before => Nat.succ_le_succ before
    · exact List.forall₂_map_left_iff.mpr found
  | take place _ ih =>
    obtain ⟨numbers, ordered, found⟩ := ih
    exact ⟨0 :: numbers, ordered.cons fun _ _ => Nat.zero_le _, .cons rfl found⟩

end DrawnFrom

/-- The positions of the entries of a sublist go further and further on. -/
theorem exists_numbers_of_sublist {α : Type} {items places : List α}
    (kept : items.Sublist places) :
    ∃ numbers : List Nat, numbers.Pairwise (· < ·) ∧
      List.Forall₂ (fun number item => places[number]? = some item) numbers items := by
  obtain ⟨positions, rfl, ordered⟩ := List.sublist_eq_map_getElem kept
  refine ⟨positions.map (·.val), ordered.map _ fun _ _ before => before, ?_⟩
  rw [List.forall₂_map_left_iff, List.forall₂_map_right_iff, List.forall₂_same]
  intro position _
  simp

section Sublists

variable {α β γ : Type} {read : α → Option β}

theorem flatMap_filterMap_sublist {give : β → List γ} {area : α → List γ}
    (each : ∀ entry value, read entry = some value → (give value).Sublist (area entry))
    (entries : List α) : ((entries.filterMap read).flatMap give).Sublist (entries.flatMap area) := by
  induction entries with
  | nil => exact .slnil
  | cons entry rest ih =>
    rw [List.flatMap_cons, List.filterMap_cons]
    cases found : read entry with
    | none => exact ih.trans (List.sublist_append_right _ _)
    | some value => exact (each entry value found).append ih

theorem map_filterMap_sublist {view : β → γ} {place : α → γ}
    (each : ∀ entry value, read entry = some value → view value = place entry)
    (entries : List α) : ((entries.filterMap read).map view).Sublist (entries.map place) := by
  rw [List.map_eq_flatMap, List.map_eq_flatMap]
  refine flatMap_filterMap_sublist (fun entry value found => ?_) entries
  rw [each entry value found]

end Sublists

namespace SyntaxTree

theorem Node.sublist_preorders (nodes : List Node) : nodes.Sublist (preorders nodes) := by
  rw [preorders_eq_flatMap]
  induction nodes with
  | nil => exact .slnil
  | cons node rest ih =>
    rw [List.flatMap_cons, preorder_eq]
    exact (ih.trans (List.sublist_append_right _ _)).cons_cons node

/-- The subtrees of the named children stand one after the other in that of their parent. -/
theorem Cursor.namedChildren_sublist (cursor : Cursor) :
    (cursor.namedChildren.flatMap (·.node.preorder)).Sublist cursor.node.preorder := by
  have whole : cursor.children.flatMap (·.node.preorder) = Node.preorders cursor.node.children := by
    rw [Node.preorders_eq_flatMap, ← map_node_children, List.flatMap_map]
  rw [Node.preorder_eq cursor.node, ← whole]
  exact (List.filter_sublist.flatMap _).cons _

theorem Cursor.namedNodes_sublist (cursor : Cursor) :
    (cursor.namedChildren.map (·.node)).Sublist cursor.node.preorder := by
  rw [Node.preorder_eq cursor.node, ← map_node_children]
  exact ((List.filter_sublist.map _).trans (Node.sublist_preorders _)).cons _

end SyntaxTree

namespace Symbol

variable (symbol : Symbol)

@[simp] theorem promote_location (function : Node) :
    (symbol.promote function).location = symbol.location := by
  unfold promote
  split <;> rfl

@[simp] theorem promote_children (function : Node) :
    (symbol.promote function).children = symbol.children := by
  unfold promote
  split <;> rfl

@[simp] theorem publish_location (aliases : Aliases) (published : List String) :
    (symbol.publish aliases published).location = symbol.location := by
  unfold publish
  split <;> rfl

@[simp] theorem publish_children (aliases : Aliases) (published : List String) :
    (symbol.publish aliases published).children = symbol.children := by
  unfold publish
  split <;> rfl

end Symbol

namespace Contribution

/-- What is added stands at nodes of a list: the imports each at a node of its own, the symbols
possibly several at one node, and both in the order of the list. -/
structure InOrder (source : Source) (nodes : List Node) (part : Contribution) : Prop where
  imports : (part.imports.map (·.location)).Sublist (nodes.map source.location)
  symbols : DrawnFrom (part.symbols.map (·.location)) (nodes.map source.location)

variable {source : Source} {nodes : List Node} {part : Contribution}

theorem InOrder.mono {wider : List Node} (inOrder : part.InOrder source nodes)
    (kept : nodes.Sublist wider) : part.InOrder source wider :=
  ⟨inOrder.imports.trans (kept.map _), inOrder.symbols.mono (kept.map _)⟩

theorem inOrder_of_empty (imports : part.imports = []) (symbols : part.symbols = []) :
    part.InOrder source nodes := by
  refine ⟨?_, ?_⟩
  · simp [imports]
  · rw [symbols]
    exact .nil _

theorem inOrder_ofImport {dependency : Import} {node : Node} (member : node ∈ nodes)
    (place : dependency.location = source.location node) :
    (ofImport dependency).InOrder source nodes := by
  refine ⟨?_, .nil _⟩
  simpa [ofImport, place] using ⟨node, member, rfl⟩

theorem inOrder_at {node : Node} (member : node ∈ nodes)
    (symbols : ∀ symbol ∈ part.symbols, symbol.location = source.location node)
    (imports : (part.imports.map (·.location)).Sublist (nodes.map source.location)) :
    part.InOrder source nodes := by
  refine ⟨imports, .of_forall_eq (List.mem_map_of_mem member) ?_⟩
  intro location present
  obtain ⟨symbol, added, rfl⟩ := List.mem_map.mp present
  exact symbols symbol added

/-- A declared symbol at a node, with the imports of the nodes around it. -/
theorem inOrder_ofDeclared {declared : Declared} {node : Node} (member : node ∈ nodes)
    (place : declared.symbol.location = source.location node)
    (imports : (declared.imports.map (·.location)).Sublist (nodes.map source.location)) :
    (ofDeclared declared).InOrder source nodes := by
  refine inOrder_at member ?_ imports
  intro symbol present
  rw [List.mem_singleton.mp present]
  exact place

/-- Contributions of one list of nodes after the other. -/
theorem inOrder_join {β : Type} {entries : List β} {give : β → Contribution}
    {area : β → List Node} (each : ∀ entry ∈ entries, (give entry).InOrder source (area entry)) :
    (join (entries.map give)).InOrder source (entries.flatMap area) := by
  constructor
  · simp only [join, List.flatMap_map, List.map_flatMap]
    exact List.Sublist.flatMap_right _ fun entry present => (each entry present).imports
  · simp only [join, List.flatMap_map, List.map_flatMap]
    exact .flatMap fun entry present => (each entry present).symbols

end Contribution

namespace Source

theorem requiredBinding?_location {source : Source} {value declarator : Node} {name : String}
    {dependency : Import} (found : source.requiredBinding? value name declarator = some dependency) :
    dependency.location = source.location declarator := by
  unfold requiredBinding? at found
  split at found
  · obtain ⟨_, _, rfl⟩ := Option.map_eq_some_iff.mp found
    rfl
  · obtain ⟨_, _, found⟩ := Option.bind_eq_some_iff.mp found
    obtain ⟨_, _, found⟩ := Option.bind_eq_some_iff.mp found
    obtain ⟨_, _, found⟩ := Option.bind_eq_some_iff.mp found
    obtain rfl := Option.some.inj found
    rfl
  · cases found

theorem requiredExport?_location {source : Source} {expression : Node} {dependency : Import}
    (found : source.requiredExport? expression = some dependency) :
    dependency.location = source.location expression := by
  unfold requiredExport? at found
  obtain ⟨_, found⟩ := guard_bind_eq_some.mp found
  obtain ⟨_, _, found⟩ := Option.bind_eq_some_iff.mp found
  obtain ⟨_, _, found⟩ := Option.bind_eq_some_iff.mp found
  obtain ⟨_, found⟩ := guard_bind_eq_some.mp found
  obtain ⟨_, _, found⟩ := Option.bind_eq_some_iff.mp found
  obtain rfl := Option.some.inj found
  rfl

theorem bindClause_location (source : Source) (dependency : Import) (part : Node) :
    (source.bindClause dependency part).location = dependency.location := by
  unfold bindClause
  split <;> rfl

theorem importStatement?_location {source : Source} {node : Node} {dependency : Import}
    (found : source.importStatement? node = some dependency) :
    dependency.location = source.location node := by
  unfold importStatement? at found
  obtain ⟨path, _, found⟩ := Option.bind_eq_some_iff.mp found
  obtain rfl := Option.some.inj found
  refine List.foldlRecOn (motive := fun bound : Import => bound.location = source.location node)
    _ _ rfl ?_
  intro bound kept part _
  rw [bindClause_location, kept]

theorem exportStatement_inOrder (source : Source) (node : Node) :
    (source.exportStatement node).InOrder source [node] := by
  unfold exportStatement
  split
  · refine Contribution.inOrder_ofImport (List.mem_singleton.mpr rfl) ?_
    unfold reexport
    split <;> rfl
  split
  · exact Contribution.inOrder_of_empty rfl rfl
  split <;> exact Contribution.inOrder_of_empty rfl rfl

end Source

namespace Context

variable {context : Context}

/-- The imports of a body come in order from the nodes of its function. -/
theorem bodyOf_imports_sublist (context : Context) (function : Node) :
    ((context.bodyOf function).imports.map (·.location)).Sublist
      (function.preorder.map context.source.location) := by
  obtain ⟨read, kept, _, imports⟩ := context.bodyOf_reads function
  rw [imports]
  refine (map_filterMap_sublist ?_ read).trans (kept.map _)
  intro node dependency found
  exact (Source.dependencyOf?_spec found).2

theorem ClassMember.imports_sublist {owner : String} {cursor : Cursor} {declared : Declared}
    (member : context.ClassMember owner cursor declared) :
    (declared.imports.map (·.location)).Sublist
      (cursor.node.preorder.map context.source.location) := by
  rcases member.body with ⟨_, none⟩ | ⟨function, inside, _, imports⟩
  · simp [none]
  · rw [imports]
    exact (context.bodyOf_imports_sublist function).trans (inside.map _)

/-- The imports of a class come in order from the bodies of its members. -/
theorem classSymbol_imports_sublist (context : Context) (cursor : Cursor) (name : String) :
    ((context.classSymbol cursor name).imports.map (·.location)).Sublist
      (cursor.node.preorder.map context.source.location) := by
  simp only [classSymbol, classMembers, List.map_flatMap]
  cases found : cursor.child? .body with
  | none => simp
  | some body =>
    have inBody : ((body.namedChildren.filterMap (context.classMember? name)).flatMap
        fun member => member.imports.map (·.location)).Sublist
          ((body.namedChildren.flatMap (·.node.preorder)).map context.source.location) := by
      rw [List.map_flatMap]
      exact flatMap_filterMap_sublist
        (fun _ _ read => (classMember?_spec read).imports_sublist) _
    exact inBody.trans ((body.namedChildren_sublist.trans (Cursor.within_of_child? found)).map _)

/-- The members of a class come in order from nodes of its body, one from each. -/
theorem classSymbol_children_sublist (context : Context) (cursor : Cursor) (name : String) :
    ((context.classSymbol cursor name).symbol.children.map (·.location)).Sublist
      (cursor.node.preorder.map context.source.location) := by
  simp only [classSymbol, classMembers, List.map_map, Function.comp_def]
  cases found : cursor.child? .body with
  | none => simp
  | some body =>
    have inBody : ((body.namedChildren.filterMap (context.classMember? name)).map
        fun member => member.symbol.location).Sublist
          (body.namedChildren.map fun member => context.source.location member.node) :=
      map_filterMap_sublist (fun _ _ read => (classMember?_spec read).place) _
    refine inBody.trans ?_
    have heads := body.namedNodes_sublist.trans (Cursor.within_of_child? found)
    simpa [Function.comp_def] using heads.map context.source.location

theorem functionSymbol_location (anchor : Cursor) (function : Node) (name : String)
    (exported : Bool) (docComment : Option String) :
    (context.functionSymbol anchor function name exported docComment).symbol.location =
      context.source.location anchor.node := by
  simp [functionSymbol]

theorem assignedSymbol_location (statement : Cursor) (function : Node) (calls : List CallSite)
    (docComment : String) (target : Target) :
    (context.assignedSymbol statement function calls docComment target).location =
      context.source.location statement.node := by
  unfold assignedSymbol
  cases target.owner <;> simp

theorem namedDeclarator_inOrder {declaration : Declaration} {declarator : Cursor} {name : String}
    {value? : Option Node} (valued : ∀ value, value? = some value → value.Within declarator.node) :
    (context.namedDeclarator declaration declarator name value?).InOrder context.source
      declarator.node.preorder := by
  have here := declarator.node.mem_preorder_self
  unfold namedDeclarator
  split
  · exact Contribution.inOrder_at here (by simp [plainVariable, boundSymbol]) (by simp)
  · rename_i value
    have inside := value.chainValue_within.trans (valued value rfl)
    simp only
    split
    · rename_i dependency required
      refine Contribution.inOrder_at here (by simp [boundSymbol]) ?_
      simpa [Source.requiredBinding?_location required] using ⟨declarator.node, here, rfl⟩
    split
    · refine Contribution.inOrder_ofDeclared here (functionSymbol_location _ _ _ _ _) ?_
      exact (context.bodyOf_imports_sublist _).trans (inside.map _)
    split
    · split
      · exact Contribution.inOrder_of_empty rfl rfl
      · rename_i declared found
        obtain ⟨given, _, rfl⟩ := class?_eq_some found
        refine Contribution.inOrder_ofDeclared inside.mem rfl ?_
        exact (context.classSymbol_imports_sublist _ _).trans (inside.map _)
    · exact Contribution.inOrder_at here (by simp [plainVariable, boundSymbol]) (by simp)

theorem patternDeclarator_inOrder {declaration : Declaration} {declarator : Cursor} {pattern : Node}
    {value? : Option Node} :
    (context.patternDeclarator declaration declarator pattern value?).InOrder context.source
      declarator.node.preorder := by
  have here := declarator.node.mem_preorder_self
  unfold patternDeclarator
  simp only
  split
  · exact Contribution.inOrder_ofImport here rfl
  · exact Contribution.inOrder_at here (by simp [plainVariable, boundSymbol]) (by simp)

theorem declarator_inOrder (declaration : Declaration) (cursor : Cursor) :
    (context.declarator declaration cursor).InOrder context.source cursor.node.preorder := by
  unfold declarator
  split
  · exact Contribution.inOrder_of_empty rfl rfl
  · simp only
    split
    · exact namedDeclarator_inOrder fun value found => Node.within_of_child? found
    · exact patternDeclarator_inOrder
    · exact patternDeclarator_inOrder
    · exact Contribution.inOrder_of_empty rfl rfl

theorem variableDeclaration_inOrder (cursor : Cursor) :
    (context.variableDeclaration cursor).InOrder context.source cursor.node.preorder := by
  unfold variableDeclaration
  refine (Contribution.inOrder_join fun declarator _ => declarator_inOrder _ declarator).mono ?_
  exact (List.filter_sublist.flatMap _).trans cursor.namedChildren_sublist

theorem idiom_inOrder {cursor : Cursor} {idiom : Idiom}
    (declaring : Idiom.Declaring context.source cursor.node idiom) :
    (idiom.contribution context cursor).InOrder context.source cursor.node.preorder := by
  cases declaring with
  | assigned function targets inside _ =>
    refine Contribution.inOrder_at cursor.node.mem_preorder_self ?_ ?_
    · intro symbol member
      obtain ⟨target, _, rfl⟩ := List.mem_map.mp member
      exact assignedSymbol_location _ _ _ _ target
    · exact (context.bodyOf_imports_sublist function).trans (inside.map _)
  | literal owner value inside =>
    have each : ∀ method ∈ (Cursor.root value).namedChildren.filterMap context.source.literalMethod?,
        (Contribution.ofDeclared (context.literalSymbol owner method)).InOrder context.source
          method.member.node.preorder := by
      intro method present
      obtain ⟨member, _, read⟩ := List.mem_filterMap.mp present
      obtain ⟨rfl, below, _⟩ := Source.literalMethod?_spec read
      refine Contribution.inOrder_ofDeclared method.member.node.mem_preorder_self rfl ?_
      exact (context.bodyOf_imports_sublist method.function).trans (below.map _)
    have members : (((Cursor.root value).namedChildren.filterMap
        context.source.literalMethod?).flatMap (·.member.node.preorder)).Sublist
          ((Cursor.root value).namedChildren.flatMap (·.node.preorder)) := by
      refine flatMap_filterMap_sublist (fun member method read => ?_) _
      rw [(Source.literalMethod?_spec read).1]
    refine (Contribution.inOrder_join each).mono ?_
    exact members.trans ((Cursor.root value).namedChildren_sublist.trans inside)

theorem statement_inOrder (context : Context) (aliases : Aliases) (cursor : Cursor) :
    ((Idiom.ofStatement context.source aliases cursor.node).contribution context cursor).InOrder
      context.source cursor.node.preorder := by
  unfold Idiom.ofStatement
  cases found : cursor.node.firstNamed? with
  | none => exact Contribution.inOrder_of_empty rfl rfl
  | some expression =>
    have inside := Node.within_of_firstNamed? found
    simp only
    rcases Idiom.ofExpression_declaring context.source aliases expression with
      ⟨dependency, same, required⟩ | ⟨_, same⟩ | ⟨_, same⟩ | declaring
    · rw [same]
      exact Contribution.inOrder_ofImport inside.mem (Source.requiredExport?_location required)
    · rw [same]
      exact Contribution.inOrder_of_empty rfl rfl
    · rw [same]
      exact Contribution.inOrder_of_empty rfl rfl
    · exact idiom_inOrder (declaring.within inside)

/-- What a node adds comes in order from its subtree. -/
theorem contribution_inOrder (context : Context) (aliases : Aliases) (cursor : Cursor) :
    (context.contributionAt aliases cursor).InOrder context.source cursor.node.preorder := by
  have here := cursor.node.mem_preorder_self
  unfold contributionAt
  cases form : Form.of context.source aliases cursor with
  | function =>
    rw [Form.contribution]
    cases found : context.functionDeclaration? cursor with
    | none => exact Contribution.inOrder_of_empty rfl rfl
    | some declared =>
      obtain ⟨name, _, rfl⟩ := functionDeclaration?_eq_some found
      exact Contribution.inOrder_ofDeclared here (functionSymbol_location _ _ _ _ _)
        (context.bodyOf_imports_sublist _)
  | classType =>
    rw [Form.contribution]
    cases found : context.class? cursor none with
    | none => exact Contribution.inOrder_of_empty rfl rfl
    | some declared =>
      obtain ⟨name, _, rfl⟩ := class?_eq_some found
      exact Contribution.inOrder_ofDeclared here rfl (context.classSymbol_imports_sublist _ _)
  | binding => exact variableDeclaration_inOrder cursor
  | importing =>
    rw [Form.contribution]
    cases found : context.source.importStatement? cursor.node with
    | none => exact Contribution.inOrder_of_empty rfl rfl
    | some dependency =>
      exact Contribution.inOrder_ofImport here (Source.importStatement?_location found)
  | exporting =>
    have alone := context.source.exportStatement_inOrder cursor.node
    exact alone.mono (List.singleton_sublist.mpr here)
  | statement idiom =>
    rw [Form.statement_idiom form]
    exact context.statement_inOrder aliases cursor
  | sealed => exact Contribution.inOrder_of_empty rfl rfl
  | passing => exact Contribution.inOrder_of_empty rfl rfl

/-- A node that the walk goes on below adds only what stands at the node itself. -/
theorem contribution_inOrder_of_enters (context : Context) (cursor : Cursor) {form : Form}
    (enters : form.enters = true) :
    (form.contribution context cursor).InOrder context.source [cursor.node] := by
  cases form with
  | exporting => exact context.source.exportStatement_inOrder cursor.node
  | passing => exact Contribution.inOrder_of_empty rfl rfl
  | statement idiom =>
    cases idiom with
    | plain published => exact Contribution.inOrder_of_empty rfl rfl
    | required | assigned | literal | inherits => cases enters
  | function | classType | binding | importing | sealed => cases enters

/-- What a visited node adds comes in order from its territory. -/
theorem contributionAt_inOrder (context : Context) (aliases : Aliases) (cursor : Cursor) :
    (context.contributionAt aliases cursor).InOrder context.source
      (territory context.source aliases cursor) := by
  unfold territory
  by_cases isOpaque : cursor.isOpaque context.source aliases
  · rw [if_pos isOpaque]
    exact context.contribution_inOrder aliases cursor
  · rw [if_neg isOpaque]
    apply context.contribution_inOrder_of_enters cursor
    rw [Form.enters_of]
    simpa using isOpaque

/-- The contributions of a file, put together, come in order from its nodes. -/
theorem contributions_inOrder (context : Context) (aliases : Aliases) (root : Node) :
    (Contribution.join (context.contributions aliases root)).InOrder context.source
      root.preorder := by
  have joined := Contribution.inOrder_join fun cursor (_ : cursor ∈
    Cursor.reachedFrom context.source aliases [.root root]) =>
      context.contributionAt_inOrder aliases cursor
  have whole : Node.preorders ([Cursor.root root].map (·.node)) = root.preorder := by
    simp [Node.preorders, Cursor.root]
  rwa [flatMap_territory _ (isReached_singleton root), whole] at joined

/-- However a symbol is declared, its members come in order from nodes of its declaration. -/
theorem Declares.children_sublist {node : Node} {symbol : Symbol}
    (declares : context.Declares node symbol) :
    (symbol.children.map (·.location)).Sublist (node.preorder.map context.source.location) := by
  cases declares with
  | function => simp [functionSymbol]
  | classType cursor name exported docComment place _ =>
    exact (context.classSymbol_children_sublist cursor name).trans (place.map _)
  | variableBinding => simp [boundSymbol]
  | assigned statement function docComment target _ _ _ =>
    unfold assignedSymbol
    cases target.owner <;> simp
  | literal => simp [literalSymbol]

theorem tables_children_sublist (context : Context) (aliases : Aliases) (root : Node) :
    ∀ symbol ∈ (context.tables aliases root).symbols.toList,
      (symbol.children.map (·.location)).Sublist (root.preorder.map context.source.location) := by
  rw [tables_eq_foldl]
  refine Table.foldl_absorb_forall (fun _ _ kept => kept) _ _ (by simp) ?_
  intro part member symbol added
  obtain ⟨cursor, reached, rfl⟩ := List.mem_map.mp member
  exact (contribution_declares added).children_sublist.trans ((node_within reached).map _)

theorem tables_symbols_drawn (context : Context) (aliases : Aliases) (root : Node) :
    DrawnFrom ((context.tables aliases root).symbols.toList.map (·.location))
      (root.preorder.map context.source.location) := by
  rw [tables_eq_foldl, Table.foldl_absorb_map fun _ _ => rfl]
  have drawn := (context.contributions_inOrder aliases root).symbols
  simpa [Contribution.join, List.map_flatMap] using drawn

end Context

/-- The locations are those of nodes of a tree, and the numbers of these nodes in pre-order stand
pairwise in a relation. -/
def Numbered (source : Source) (root : Node) (related : Nat → Nat → Prop)
    (locations : List Location) : Prop :=
  ∃ numbers : List Nat, numbers.Pairwise related ∧
    List.Forall₂ (fun number location => ∃ node, root.preorder[number]? = some node ∧
      location = source.location node) numbers locations

section Numbers

variable {source : Source} {root : Node} {locations : List Location}

private theorem numbered_of {related : Nat → Nat → Prop} (numbers : List Nat)
    (ordered : numbers.Pairwise related)
    (found : List.Forall₂ (fun number location =>
      (root.preorder.map source.location)[number]? = some location) numbers locations) :
    Numbered source root related locations := by
  refine ⟨numbers, ordered, found.imp fun number location place => ?_⟩
  rw [List.getElem?_map] at place
  obtain ⟨node, present, same⟩ := Option.map_eq_some_iff.mp place
  exact ⟨node, present, same.symm⟩

theorem numbered_lt (kept : locations.Sublist (root.preorder.map source.location)) :
    Numbered source root (· < ·) locations := by
  obtain ⟨numbers, ordered, found⟩ := exists_numbers_of_sublist kept
  exact numbered_of numbers ordered found

theorem numbered_le (drawn : DrawnFrom locations (root.preorder.map source.location)) :
    Numbered source root (· ≤ ·) locations := by
  obtain ⟨numbers, ordered, found⟩ := drawn.exists_numbers
  exact numbered_of numbers ordered found

end Numbers

/-- Source order without repetition. The imports of a file come from nodes with growing numbers,
so no node gives two; its symbols, but for a class made for the aliases at the end, come from nodes
whose numbers never fall, and the members of each from nodes with growing numbers. -/
theorem Context.extract_in_source_order (context : Context) (language : String) (root : Node) :
    Numbered context.source root (· < ·)
      ((context.extract true language root).extraction.imports.map (·.location)) ∧
    ∃ declared : List Symbol,
      (context.extract true language root).extraction.symbols = declared ++
        ((Aliases.resolve context.source root).synthetic? context.source declared).toList ∧
      Numbered context.source root (· ≤ ·) (declared.map (·.location)) ∧
      ∀ symbol ∈ declared,
        Numbered context.source root (· < ·) (symbol.children.map (·.location)) := by
  let aliases := Aliases.resolve context.source root
  let table := context.tables aliases root
  constructor
  · refine numbered_lt ?_
    show (table.imports.toList.map (·.location)).Sublist _
    rw [tables_imports]
    exact (context.contributions_inOrder aliases root).imports
  · refine ⟨table.symbols.toList.map (·.publish aliases table.published), rfl, ?_, ?_⟩
    · refine numbered_le ?_
      simpa [Function.comp_def] using context.tables_symbols_drawn aliases root
    · intro symbol member
      obtain ⟨old, present, rfl⟩ := List.mem_map.mp member
      rw [Symbol.publish_children]
      exact numbered_lt (context.tables_children_sublist aliases root old present)

end ScriptAtlas
