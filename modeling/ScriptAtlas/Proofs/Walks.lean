import ScriptAtlas.Proofs.FanOut
import Mathlib.Logic.Relation

/-! Three walks follow a chain of assignments: one for its value, one for its left sides, one for an
assignment to the export object. As loops they end within as many turns as the tree has nodes. They
agree wherever no assignment on the way lacks a side. -/
namespace ScriptAtlas
open SyntaxTree

/-- Take turns with a state until one of them gives a result, at most so many. -/
def takeTurns {State Result : Type} (turn : State → State ⊕ Result) : Nat → State → Option Result
  | 0, _ => none
  | turns + 1, state =>
    match turn state with
    | .inl next => takeTurns turn turns next
    | .inr result => some result

/-- A loop whose state becomes smaller in every turn ends, with the answer that no turn changes. -/
theorem takeTurns_eq_some {State Result : Type} {turn : State → State ⊕ Result}
    (measure : State → Nat) (answer : State → Result) (positive : ∀ state, 0 < measure state)
    (goesOn : ∀ state next, turn state = .inl next →
      measure next < measure state ∧ answer next = answer state)
    (ends : ∀ state result, turn state = .inr result → answer state = result)
    {turns : Nat} {state : State} (enough : measure state ≤ turns) :
    takeTurns turn turns state = some (answer state) := by
  induction turns generalizing state with
  | zero => exact absurd enough (Nat.not_le.mpr (positive state))
  | succ turns ih =>
    rw [takeTurns]
    cases taken : turn state with
    | inl next =>
      obtain ⟨smaller, same⟩ := goesOn state next taken
      have later := ih (Nat.le_of_lt_succ (Nat.lt_of_lt_of_le smaller enough))
      simp only [later, same]
    | inr result => simp only [ends state result taken]

namespace SyntaxTree.Node

/-- The next node along a chain: the right side of an assignment, the first named child of
parentheses. -/
def chainNext? (node : Node) : Option Node :=
  match node.kind with
  | .assignmentExpression => node.child? .right
  | .parenthesizedExpression => node.firstNamed?
  | _ => none

/-- The left side of an assignment. -/
def link? (node : Node) : Option Node :=
  if node.kind = .assignmentExpression then node.child? .left else none

/-- The nodes that are met along a chain, the first one included. -/
def Meets : Node → Node → Prop :=
  Relation.ReflTransGen fun node next => node.chainNext? = some next

/-- Every assignment that is met along a chain has both sides. -/
def Complete (node : Node) : Prop :=
  ∀ met, node.Meets met → met.kind = .assignmentExpression →
    (met.child? .left).isSome = true ∧ (met.child? .right).isSome = true

/-- One turn of the walk for the value. -/
def valueTurn (node : Node) : Node ⊕ Node := node.chainNext?.elim (.inr node) .inl

/-- One turn of the walk for the left sides, with those found so far. -/
def linksTurn : List Node × Node → (List Node × Node) ⊕ (List Node × Node)
  | (links, node) =>
    match node.kind with
    | .assignmentExpression =>
      match node.child? .left, node.child? .right with
      | some left, some right => .inl (links ++ [left], right)
      | _, _ => .inr (links, node)
    | _ => node.chainNext?.elim (.inr (links, node)) fun next => .inl (links, next)

variable {node : Node}

theorem size_lt_of_chainNext? {next : Node} (found : node.chainNext? = some next) :
    next.size < node.size := by
  unfold chainNext? at found
  split at found
  · exact size_lt_of_child? found
  · exact size_lt_of_firstNamed? found
  · cases found

/-- What passes from the next node along a chain to a node holds of every node. -/
theorem chainInduction {motive : Node → Prop}
    (step : ∀ node, (∀ next, node.chainNext? = some next → motive next) → motive node)
    (node : Node) : motive node :=
  step node fun next found =>
    have := size_lt_of_chainNext? found
    chainInduction step next
termination_by node.size

theorem Complete.of_meets {met : Node} (complete : node.Complete) (meets : node.Meets met) :
    met.Complete :=
  fun later onward => complete later (meets.trans onward)

theorem Complete.of_next
    (sides : node.kind = .assignmentExpression →
      (node.child? .left).isSome = true ∧ (node.child? .right).isSome = true)
    (later : ∀ next, node.chainNext? = some next → next.Complete) : node.Complete := by
  intro met meets kind
  rcases meets.cases_head with rfl | ⟨next, found, onward⟩
  · exact sides kind
  · exact later next found met onward kind

/-- A chain without a gap does not end at an assignment. -/
theorem Complete.kind_ne (complete : node.Complete) (final : node.chainNext? = none) :
    node.kind ≠ .assignmentExpression := by
  intro kind
  have followed := (complete node .refl kind).2
  simp only [chainNext?, kind] at final
  simp [final] at followed

theorem chainValue_eq_elim (node : Node) :
    node.chainValue = node.chainNext?.elim node chainValue := by
  unfold chainNext?
  fun_cases chainValue node with
  | case1 kind right followed => simp [kind, followed]
  | case2 kind absent => simp [kind, absent]
  | case3 kind inner opened => simp [kind, opened]
  | case4 kind absent => simp [kind, absent]
  | case5 => simp

/-- The way to the value goes on as long as there is a next node. -/
theorem chainValue_final (node : Node) :
    node.Meets node.chainValue ∧ node.chainValue.chainNext? = none := by
  induction node using chainInduction with
  | step node ih =>
    rw [chainValue_eq_elim]
    cases found : node.chainNext? with
    | none => exact ⟨.refl, found⟩
    | some next =>
      obtain ⟨meets, final⟩ := ih next found
      exact ⟨.head found meets, final⟩

/-- The left sides and the end of a chain without a gap, by its first node. -/
theorem Complete.chainLinks_eq_elim (complete : node.Complete) :
    node.chainLinks = node.chainNext?.elim ([], node) fun next =>
      (node.link?.toList ++ next.chainLinks.1, next.chainLinks.2) := by
  unfold chainNext? link?
  fun_cases chainLinks node with
  | case1 kind left right followed assigned links value same =>
    simp [kind, followed, assigned, same]
  | case2 kind lacking =>
    obtain ⟨assigned, followed⟩ := complete node .refl kind
    obtain ⟨left, assigned⟩ := Option.isSome_iff_exists.mp assigned
    obtain ⟨right, followed⟩ := Option.isSome_iff_exists.mp followed
    exact absurd followed (lacking left right assigned)
  | case3 kind inner opened => simp [kind, opened]
  | case4 kind absent => simp [kind, absent]
  | case5 => simp

theorem Complete.chainLinks_value (complete : node.Complete) :
    node.chainLinks.2 = node.chainValue := by
  induction node using chainInduction with
  | step node ih =>
    rw [complete.chainLinks_eq_elim, chainValue_eq_elim]
    cases found : node.chainNext? with
    | none => rfl
    | some next => exact ih next found (complete.of_meets (.single found))

/-- A chain without a gap is followed until neither assignment nor parentheses lead on. -/
theorem Complete.chainValue_kind (complete : node.Complete) :
    node.chainValue.kind ≠ .assignmentExpression ∧
      (node.chainValue.kind = .parenthesizedExpression → node.chainValue.namedChildren = []) := by
  obtain ⟨meets, final⟩ := node.chainValue_final
  refine ⟨(complete.of_meets meets).kind_ne final, fun kind => ?_⟩
  simp only [chainNext?, kind, firstNamed?, List.find?_eq_none] at final
  exact List.filter_eq_nil_iff.mpr final

theorem valueTurn_ends (node : Node) :
    takeTurns valueTurn node.size node = some node.chainValue := by
  refine takeTurns_eq_some size chainValue size_pos ?_ ?_ (Nat.le_refl _)
  · intro node next taken
    cases found : node.chainNext? with
    | none => simp [valueTurn, found] at taken
    | some inner =>
      obtain rfl : inner = next := by simpa [valueTurn, found] using taken
      exact ⟨size_lt_of_chainNext? found, by rw [node.chainValue_eq_elim, found, Option.elim_some]⟩
  · intro node result taken
    cases found : node.chainNext? with
    | none =>
      obtain rfl : node = result := by simpa [valueTurn, found] using taken
      rw [chainValue_eq_elim, found, Option.elim_none]
    | some inner => simp [valueTurn, found] at taken

/-- A turn of the walk for the left sides goes on below the node or ends at it. -/
theorem linksTurn_cases (links : List Node) (node : Node) :
    (∃ front next, linksTurn (links, node) = .inl (links ++ front, next) ∧ next.size < node.size ∧
      node.chainLinks = (front ++ next.chainLinks.1, next.chainLinks.2)) ∨
    linksTurn (links, node) = .inr (links, node) ∧ node.chainLinks = ([], node) := by
  unfold linksTurn chainNext?
  fun_cases chainLinks node with
  | case1 kind left right followed assigned found value same =>
    exact .inl ⟨[left], right, by simp [kind, assigned, followed], size_lt_of_child? followed,
      by simp [same]⟩
  | case2 kind lacking =>
    refine .inr ⟨?_, rfl⟩
    simp only [kind]
  | case3 kind inner opened =>
    exact .inl ⟨[], inner, by simp [kind, opened], size_lt_of_firstNamed? opened, by simp⟩
  | case4 kind absent => exact .inr ⟨by simp [kind, absent], rfl⟩
  | case5 => exact .inr ⟨by simp [*], rfl⟩

theorem linksTurn_ends (node : Node) :
    takeTurns linksTurn node.size ([], node) = some node.chainLinks := by
  have ends : takeTurns linksTurn node.size ([], node) = some _ := takeTurns_eq_some
    (fun state => state.2.size)
    (fun state => (state.1 ++ state.2.chainLinks.1, state.2.chainLinks.2))
    (fun state => size_pos state.2) ?_ ?_ (Nat.le_refl _)
  · simpa using ends
  · rintro ⟨links, node⟩ state taken
    rcases linksTurn_cases links node with ⟨front, next, onward, smaller, parts⟩ | ⟨final, _⟩
    · obtain rfl := Sum.inl.inj (onward.symm.trans taken)
      exact ⟨smaller, by simp [parts]⟩
    · cases final.symm.trans taken
  · rintro ⟨links, node⟩ result taken
    rcases linksTurn_cases links node with ⟨_, _, onward, _⟩ | ⟨final, parts⟩
    · cases onward.symm.trans taken
    · obtain rfl := Sum.inr.inj (final.symm.trans taken)
      simp [parts]

end SyntaxTree.Node

namespace Source

/-- One turn of the walk for an assignment to the export object; the first one found ends it. -/
def exportsTurn (source : Source) (node : Node) : Node ⊕ Bool :=
  if node.link?.any source.isModuleExports then .inr true
  else node.chainNext?.elim (.inr false) .inl

theorem chainExports_eq_any (source : Source) (node : Node) :
    source.chainExports node =
      (node.link?.any source.isModuleExports || node.chainNext?.any source.chainExports) := by
  unfold Node.chainNext? Node.link?
  fun_cases chainExports source node with
  | case1 kind =>
    simp only [kind]
    cases node.child? .right <;> simp
  | case2 kind inner opened => simp [kind, opened]
  | case3 kind absent => simp [kind, absent]
  | case4 notAssignment => simp [if_neg notAssignment]

theorem exportsTurn_ends (source : Source) (node : Node) :
    takeTurns source.exportsTurn node.size node = some (source.chainExports node) := by
  refine takeTurns_eq_some Node.size source.chainExports Node.size_pos ?_ ?_ (Nat.le_refl _)
  · intro node next taken
    rw [source.chainExports_eq_any node]
    unfold exportsTurn at taken
    split at taken
    · cases taken
    rename_i unassigned
    cases found : node.chainNext? with
    | none => simp [found] at taken
    | some inner =>
      obtain rfl : inner = next := by simpa [found] using taken
      exact ⟨Node.size_lt_of_chainNext? found, by simp [unassigned]⟩
  · intro node result taken
    rw [source.chainExports_eq_any node]
    unfold exportsTurn at taken
    split at taken
    · rename_i assigned
      obtain rfl := Sum.inr.inj taken
      simp [assigned]
    · rename_i unassigned
      cases found : node.chainNext? with
      | none =>
        obtain rfl : false = result := by simpa [found] using taken
        simp [unassigned]
      | some inner => simp [found] at taken

/-- Along a chain without a gap the export object is among the left sides if and only if it is
assigned to. -/
theorem chainExports_iff {source : Source} {node : Node} (complete : node.Complete) :
    source.chainExports node = true ↔
      ∃ left ∈ node.chainLinks.1, source.isModuleExports left = true := by
  induction node using Node.chainInduction with
  | step node ih =>
    rw [chainExports_eq_any, complete.chainLinks_eq_elim]
    cases found : node.chainNext? with
    | none =>
      have unlinked : node.link? = none := if_neg (complete.kind_ne found)
      simp [unlinked]
    | some next =>
      have later := ih next found (complete.of_meets (.single found))
      simp [later, Option.any_eq_true, or_and_right, exists_or]

/-- The three walks, on every tree. As loops they end, each within as many turns as the tree has
nodes, with the answers of the recursive readings. Where every assignment on the way has both sides,
the walk for the left sides ends at the value, no assignment and no parentheses lead on from there,
and the export object is found exactly if it is one of the left sides. -/
theorem chain_walks_agree (source : Source) (node : Node) :
    takeTurns Node.valueTurn node.size node = some node.chainValue ∧
    takeTurns Node.linksTurn node.size ([], node) = some node.chainLinks ∧
    takeTurns source.exportsTurn node.size node = some (source.chainExports node) ∧
    (node.Complete →
      node.chainLinks.2 = node.chainValue ∧
      node.chainValue.kind ≠ .assignmentExpression ∧
      (node.chainValue.kind = .parenthesizedExpression → node.chainValue.namedChildren = []) ∧
      (source.chainExports node = true ↔
        ∃ left ∈ node.chainLinks.1,
          source.text left = "module.exports" ∨ source.text left = "exports")) := by
  refine ⟨node.valueTurn_ends, node.linksTurn_ends, source.exportsTurn_ends node, ?_⟩
  intro complete
  obtain ⟨notAssignment, notWrapping⟩ := complete.chainValue_kind
  refine ⟨complete.chainLinks_value, notAssignment, notWrapping, ?_⟩
  simp only [chainExports_iff complete, isModuleExports_iff]

/-- The tree of `m=(module.exports=x)`. -/
def sampleExport : Node :=
  ⟨.assignmentExpression, true, false, none, 0, 20, [
    ⟨.identifier, true, false, some .left, 0, 1, []⟩,
    ⟨.parenthesizedExpression, true, false, some .right, 2, 20, [
      ⟨.assignmentExpression, true, false, none, 3, 19, [
        sampleMember (some .left) 3 9 17,
        ⟨.identifier, true, false, some .right, 18, 19, []⟩]⟩]⟩]⟩

/-- The export object is found behind parentheses, and the value is the name at the end. -/
theorem chain_walks_agree_sampleExport :
    let source := Source.ofBytes "lib/m.js" "m=(module.exports=x)".toUTF8
    sampleExport.Complete ∧ source.text sampleExport.chainLinks.2 = "x" ∧
    takeTurns source.exportsTurn sampleExport.size sampleExport = some true ∧
    ∃ left ∈ sampleExport.chainLinks.1,
      source.text left = "module.exports" ∨ source.text left = "exports" := by
  intro source
  have complete : sampleExport.Complete := by
    refine .of_next (fun _ => ⟨rfl, rfl⟩) fun _ found => ?_
    obtain rfl := Option.some.inj found
    refine .of_next nofun fun _ found => ?_
    obtain rfl := Option.some.inj found
    refine .of_next (fun _ => ⟨rfl, rfl⟩) fun _ found => ?_
    obtain rfl := Option.some.inj found
    exact .of_next nofun nofun
  obtain ⟨_, _, ends, agree⟩ := chain_walks_agree source sampleExport
  obtain ⟨value, _, _, exports⟩ := agree complete
  have assigned : source.chainExports sampleExport = true := by decide +kernel
  refine ⟨complete, ?_, assigned ▸ ends, exports.mp assigned⟩
  rw [value]
  decide +kernel

end Source
end ScriptAtlas
