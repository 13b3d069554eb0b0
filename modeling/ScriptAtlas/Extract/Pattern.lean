import ScriptAtlas.Source

/-! The names that a destructuring pattern binds. -/
namespace ScriptAtlas.Source
open SyntaxTree

/-- The parts of a pattern that hold further names: the value of a pair, the left side of a
default, the elements of an object, array or rest pattern. -/
def patternParts (node : Node) : List Node :=
  match node.kind with
  | .pairPattern => (node.child? .value).toList
  | .assignmentPattern | .objectAssignmentPattern => (node.child? .left).toList
  | .objectPattern | .arrayPattern | .restPattern => node.namedChildren
  | _ => []

/-- Identifiers bind their own text. -/
def bindsName (node : Node) : Bool :=
  node.kind == .identifier || node.kind == .shorthandPropertyIdentifierPattern

theorem sizes_filter_le (keep : Node → Bool) (nodes : List Node) :
    Node.sizes (nodes.filter keep) ≤ Node.sizes nodes := by
  induction nodes with
  | nil => simp
  | cons head rest ih =>
    by_cases kept : keep head = true <;> simp [kept, Node.sizes] <;> omega

theorem sizes_child?_le (node : Node) (field : Field) :
    Node.sizes (node.child? field).toList ≤ Node.sizes node.children := by
  cases found : node.child? field with
  | none => simp [Node.sizes]
  | some child =>
    have bound := Node.size_le_sizes (Node.mem_children_of_child? found)
    simp [Node.sizes]; omega

/-- The parts of a pattern weigh less than the pattern. -/
theorem sizes_patternParts_lt (node : Node) : Node.sizes (patternParts node) < node.size := by
  have bound : Node.sizes (patternParts node) ≤ Node.sizes node.children := by
    unfold patternParts
    split
    · exact sizes_child?_le node _
    · exact sizes_child?_le node _
    · exact sizes_child?_le node _
    · exact sizes_filter_le _ _
    · exact sizes_filter_le _ _
    · exact sizes_filter_le _ _
    · simp [Node.sizes]
  rw [Node.size_eq]; omega

/-- Collect the bound names of a stack of patterns after those already found. -/
def collectNames (source : Source) (stack : List Node) (names : Array String) : Array String :=
  match stack with
  | [] => names
  | node :: rest =>
    if bindsName node then source.collectNames rest (names.push (source.text node))
    else source.collectNames (patternParts node ++ rest) names
termination_by Node.sizes stack
decreasing_by
  · have := node.size_pos
    simp only [Node.sizes]; omega
  · have := sizes_patternParts_lt node
    simp only [Node.sizes, Node.sizes_append]; omega

/-- The names bound by a pattern, from left to right. -/
def patternNames (source : Source) (pattern : Node) : List String :=
  (source.collectNames [pattern] #[]).toList

end ScriptAtlas.Source
