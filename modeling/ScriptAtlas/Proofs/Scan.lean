import ScriptAtlas.Extract.Calls
import ScriptAtlas.Proofs.Preorder

/-! What a bounded scan of a body finds. The stack loop reads the nodes within the depth limit in
pre-order, so a scan is a walk along a list that may end early, and a scan that ends earlier finds
a beginning of what the longer one finds. -/
namespace ScriptAtlas
open SyntaxTree

namespace SyntaxTree.Node

mutual
/-- The nodes of a subtree with their depths, each before its descendants. -/
def levels (depth : Nat) : Node → List (Node × Nat)
  | node@{ children, .. } => (node, depth) :: levelsOf (depth + 1) children

/-- The nodes of several subtrees with their depths, in order. -/
def levelsOf (depth : Nat) : List Node → List (Node × Nat)
  | [] => []
  | child :: rest => child.levels depth ++ levelsOf depth rest
end

theorem levels_eq (node : Node) (depth : Nat) :
    node.levels depth = (node, depth) :: levelsOf (depth + 1) node.children := by
  cases node; rfl

theorem levelsOf_eq_flatMap (nodes : List Node) (depth : Nat) :
    levelsOf depth nodes = nodes.flatMap (levels depth) := by
  induction nodes with
  | nil => rfl
  | cons node rest ih => simp [levelsOf, ih]

theorem le_of_mem_levels {node : Node} {depth : Nat} {item : Node × Nat}
    (member : item ∈ node.levels depth) : depth ≤ item.2 := by
  rw [levels_eq, levelsOf_eq_flatMap] at member
  rcases List.mem_cons.mp member with same | below
  · simp [same]
  · obtain ⟨child, present, inside⟩ := List.mem_flatMap.mp below
    have smaller := size_lt_of_mem present
    have deeper := le_of_mem_levels inside
    omega
termination_by node.size

theorem map_fst_levels (node : Node) (depth : Nat) :
    (node.levels depth).map (·.1) = node.preorder := by
  rw [levels_eq, preorder_eq, levelsOf_eq_flatMap, preorders_eq_flatMap, List.map_cons,
    List.map_flatMap]
  congr 1
  apply List.flatMap_congr
  intro child member
  have smaller := size_lt_of_mem member
  exact map_fst_levels child (depth + 1)
termination_by node.size

/-- The nodes at or below those of a stack that lie within a depth, in pre-order. -/
def shallow (limit : Nat) (stack : List (Node × Nat)) : List Node :=
  ((stack.flatMap fun item => item.1.levels item.2).filter fun item => item.2 ≤ limit).map (·.1)

theorem shallow_cons (limit : Nat) (node : Node) (depth : Nat) (rest : List (Node × Nat)) :
    shallow limit ((node, depth) :: rest) =
      if limit < depth then shallow limit rest
      else node :: shallow limit (node.children.map (·, depth + 1) ++ rest) := by
  by_cases deep : limit < depth
  · have skipped : (node.levels depth).filter (fun item => item.2 ≤ limit) = [] := by
      apply List.filter_eq_nil_iff.mpr
      intro item member
      have := le_of_mem_levels member
      simp only [decide_eq_true_eq]
      omega
    simp [shallow, deep, skipped]
  · have kept : depth ≤ limit := Nat.le_of_not_lt deep
    simp [shallow, deep, levels_eq node, levelsOf_eq_flatMap, kept, List.flatMap_map]

theorem shallow_sublist (limit : Nat) (node : Node) (depth : Nat) :
    (shallow limit [(node, depth)]).Sublist node.preorder := by
  rw [← map_fst_levels node depth]
  simp only [shallow, List.flatMap_cons, List.flatMap_nil, List.append_nil]
  exact List.filter_sublist.map _

end SyntaxTree.Node

/-- The call site that a node of a body yields: that of a call which is no dynamic import, with the
callbacks among its arguments, or that of a construction. -/
def Source.siteOf? (source : Source) (node : Node) : Option CallSite :=
  match node.kind with
  | .callExpression =>
    match source.dynamicImport? node with
    | some _ => none
    | none => source.callSiteUnder? node .callee (source.callbackArgs node)
  | .newExpression => source.callSiteUnder? node .constructorName []
  | _ => none

/-- The dynamic import that a node of a body yields. -/
def Source.dependencyOf? (source : Source) (node : Node) : Option Import :=
  match node.kind with
  | .callExpression => source.dynamicImport? node
  | _ => none

theorem guard_bind_eq_some {α : Type} {condition : Prop} [Decidable condition]
    {rest : Unit → Option α} {value : α} :
    (guard condition >>= rest) = some value ↔ condition ∧ rest () = some value := by
  by_cases holds : condition <;> simp [holds, guard, failure]

/-- A recorded call names what it calls, and it is a method call if it has a receiver. -/
structure CallSite.Valid (site : CallSite) : Prop where
  target : site.target ≠ ""
  isMethod : site.isMethod = site.receiver.isSome

namespace Source

theorem callSiteUnder?_spec {source : Source} {node : Node} {field : Field}
    {functionArgs : List String} {site : CallSite}
    (found : source.callSiteUnder? node field functionArgs = some site) :
    site.Valid ∧ site.location = source.location node := by
  unfold callSiteUnder? at found
  obtain ⟨callee, _, found⟩ := Option.bind_eq_some_iff.mp found
  obtain ⟨⟨target, receiver⟩, _, found⟩ := Option.bind_eq_some_iff.mp found
  obtain ⟨named, found⟩ := guard_bind_eq_some.mp found
  obtain rfl := Option.some.inj found
  exact ⟨⟨by simpa using named, rfl⟩, rfl⟩

/-- A call is valid and stands where it is written. -/
theorem siteOf?_spec {source : Source} {node : Node} {site : CallSite}
    (found : source.siteOf? node = some site) :
    site.Valid ∧ site.location = source.location node := by
  unfold siteOf? at found
  split at found
  · split at found
    · cases found
    · exact callSiteUnder?_spec found
  · exact callSiteUnder?_spec found
  · cases found

theorem dynamicImport?_spec {source : Source} {node : Node} {dependency : Import}
    (found : source.dynamicImport? node = some dependency) :
    dependency.isDynamic = true ∧ dependency.location = source.location node := by
  unfold dynamicImport? at found
  obtain ⟨callee, _, found⟩ := Option.bind_eq_some_iff.mp found
  obtain ⟨_, found⟩ := guard_bind_eq_some.mp found
  obtain ⟨list, _, found⟩ := Option.bind_eq_some_iff.mp found
  split at found
  · obtain ⟨path, _, found⟩ := Option.bind_eq_some_iff.mp found
    obtain rfl := Option.some.inj found
    exact ⟨rfl, rfl⟩
  · cases found

/-- A dynamic import is marked as such and stands where it is written. -/
theorem dependencyOf?_spec {source : Source} {node : Node} {dependency : Import}
    (found : source.dependencyOf? node = some dependency) :
    dependency.isDynamic = true ∧ dependency.location = source.location node := by
  unfold dependencyOf? at found
  split at found
  · exact dynamicImport?_spec found
  · cases found

/-- A node mentions its dynamic import, or else its call. -/
theorem mention?_cases (source : Source) (node : Node) :
    (∃ dependency, source.mention? node = some (.dependency dependency) ∧
      source.dependencyOf? node = some dependency ∧ source.siteOf? node = none) ∨
    (source.mention? node = (source.siteOf? node).map .call ∧
      source.dependencyOf? node = none) := by
  unfold mention? dependencyOf? siteOf?
  split
  · rename_i kind
    rw [kind]
    cases source.dynamicImport? node with
    | some dependency => exact .inl ⟨dependency, rfl, rfl, rfl⟩
    | none => exact .inr ⟨rfl, rfl⟩
  · rename_i kind
    rw [kind]
    exact .inr ⟨rfl, rfl⟩
  · exact .inr ⟨by simp, by simp⟩

end Source

namespace CallScan

theorem add_calls (scan : CallScan) (source : Source) (node : Node) :
    (scan.add (source.mention? node)).calls.toList =
      scan.calls.toList ++ (source.siteOf? node).toList := by
  rcases source.mention?_cases node with ⟨dependency, mentioned, _, silent⟩ | ⟨mentioned, _⟩
  · simp [mentioned, silent, add]
  · rw [mentioned]
    cases source.siteOf? node <;> simp [add]

theorem add_imports (scan : CallScan) (source : Source) (node : Node) :
    (scan.add (source.mention? node)).imports.toList =
      scan.imports.toList ++ (source.dependencyOf? node).toList := by
  rcases source.mention?_cases node with ⟨dependency, mentioned, found, _⟩ | ⟨mentioned, absent⟩
  · simp [mentioned, found, add]
  · rw [mentioned, absent]
    cases source.siteOf? node <;> simp [add]

end CallScan

namespace Context

/-- Walk along a list of nodes under the same bounds as a scan. -/
def scanAlong (context : Context) : List Node → Nat → CallScan → CallScan
  | [], _, scan => scan
  | node :: rest, visited, scan =>
    if (visited + 1) % pollInterval == 0 && context.cancelled then
      { scan with ending := .cancelled (visited + 1) }
    else if context.limits.sites ≤ scan.calls.size then { scan with ending := .full }
    else context.scanAlong rest (visited + 1) (scan.add (context.source.mention? node))

/-- The stack loop of a scan reads the nodes within its depth in pre-order. -/
theorem scanFrom_eq_scanAlong (context : Context) (stack : List (Node × Nat)) (visited : Nat)
    (scan : CallScan) :
    context.scanFrom stack visited scan =
      context.scanAlong (Node.shallow context.limits.depth stack) visited scan := by
  fun_induction context.scanFrom stack visited scan with
  | case1 visited scan => rfl
  | case2 visited scan node depth rest deep ih => rw [Node.shallow_cons, if_pos deep, ih]
  | case3 visited scan node depth rest inside stop =>
    rw [Node.shallow_cons, if_neg inside, scanAlong, if_pos stop]
  | case4 visited scan node depth rest inside on full =>
    rw [Node.shallow_cons, if_neg inside, scanAlong, if_neg on, if_pos full]
  | case5 visited scan node depth rest inside on room ih =>
    rw [Node.shallow_cons, if_neg inside, scanAlong, if_neg on, if_neg room]
    simpa using ih

/-- A scan reads a beginning of its nodes and records what they yield, in order. -/
theorem scanAlong_reads (context : Context) (nodes : List Node) (visited : Nat) (scan : CallScan) :
    ∃ read, read <+: nodes ∧
      (context.scanAlong nodes visited scan).calls.toList =
        scan.calls.toList ++ read.filterMap context.source.siteOf? ∧
      (context.scanAlong nodes visited scan).imports.toList =
        scan.imports.toList ++ read.filterMap context.source.dependencyOf? := by
  induction nodes generalizing visited scan with
  | nil => exact ⟨[], List.nil_prefix, by simp [scanAlong], by simp [scanAlong]⟩
  | cons node rest ih =>
    rw [scanAlong]
    split
    · exact ⟨[], List.nil_prefix, by simp, by simp⟩
    split
    · exact ⟨[], List.nil_prefix, by simp, by simp⟩
    · obtain ⟨read, kept, calls, imports⟩ :=
        ih (visited + 1) (scan.add (context.source.mention? node))
      refine ⟨node :: read, List.prefix_cons_inj node |>.mpr kept, ?_, ?_⟩
      · rw [calls, CallScan.add_calls, List.append_assoc, List.filterMap_cons]
        cases context.source.siteOf? node <;> simp
      · rw [imports, CallScan.add_imports, List.append_assoc, List.filterMap_cons]
        cases context.source.dependencyOf? node <;> simp

/-- No scan records more calls than its limit allows. -/
theorem scanAlong_size_le (context : Context) (nodes : List Node) (visited : Nat)
    (scan : CallScan) (fits : scan.calls.size ≤ context.limits.sites) :
    (context.scanAlong nodes visited scan).calls.size ≤ context.limits.sites := by
  induction nodes generalizing visited scan with
  | nil => exact fits
  | cons node rest ih =>
    rw [scanAlong]
    split
    · exact fits
    split
    · exact fits
    · rename_i room
      apply ih
      have grown := congrArg List.length (CallScan.add_calls scan context.source node)
      have single := Option.length_toList_le (o := context.source.siteOf? node)
      simp only [List.length_append, Array.length_toList] at grown
      omega

/-- Tighter limits and an earlier cancellation only cut a scan short. -/
theorem scanAlong_cut {first second : Context} (source : first.source = second.source)
    (sites : first.limits.sites ≤ second.limits.sites)
    (cancelled : second.cancelled = true → first.cancelled = true) (nodes : List Node)
    (visited : Nat) (scan : CallScan) :
    (first.scanAlong nodes visited scan).calls.toList <+:
        (second.scanAlong nodes visited scan).calls.toList ∧
      (first.scanAlong nodes visited scan).imports.toList <+:
        (second.scanAlong nodes visited scan).imports.toList := by
  induction nodes generalizing visited scan with
  | nil => exact ⟨List.prefix_refl _, List.prefix_refl _⟩
  | cons node rest ih =>
    obtain ⟨read, _, calls, imports⟩ := second.scanAlong_reads (node :: rest) visited scan
    -- Where the first scan ends, the second one has at least what was found so far.
    have extended : scan.calls.toList <+: (second.scanAlong (node :: rest) visited scan).calls.toList ∧
        scan.imports.toList <+: (second.scanAlong (node :: rest) visited scan).imports.toList := by
      rw [calls, imports]
      exact ⟨List.prefix_append _ _, List.prefix_append _ _⟩
    rw [scanAlong]
    split
    · exact extended
    split
    · exact extended
    · rename_i running room
      have alsoRunning : ¬((visited + 1) % pollInterval == 0 && second.cancelled) = true := by
        intro stop
        obtain ⟨poll, stopped⟩ := Bool.and_eq_true_iff.mp stop
        exact running (Bool.and_eq_true_iff.mpr ⟨poll, cancelled stopped⟩)
      rw [scanAlong, if_neg alsoRunning, if_neg (by omega), source]
      exact ih (visited + 1) _

theorem scanCalls_eq (context : Context) (body : Node) :
    context.scanCalls body =
      context.scanAlong (Node.shallow context.limits.depth [(body, 0)]) 0 {} :=
  context.scanFrom_eq_scanAlong _ _ _

/-- The calls and imports of a body are those of some of its nodes, in order. -/
theorem bodyOf_reads (context : Context) (function : Node) :
    ∃ read : List Node, read.Sublist function.preorder ∧
      (context.bodyOf function).calls = read.filterMap context.source.siteOf? ∧
      (context.bodyOf function).imports = read.filterMap context.source.dependencyOf? := by
  unfold bodyOf
  cases found : function.child? .body with
  | none => exact ⟨[], by simp, rfl, rfl⟩
  | some body =>
    obtain ⟨read, kept, calls, imports⟩ :=
      context.scanAlong_reads (Node.shallow context.limits.depth [(body, 0)]) 0 {}
    rw [← scanCalls_eq] at calls imports
    refine ⟨read, ?_, by simpa using calls, by simpa using imports⟩
    have inside := Node.within_of_child? found
    exact kept.sublist.trans ((Node.shallow_sublist _ body 0).trans inside)

theorem bodyOf_length_le (context : Context) (function : Node) :
    (context.bodyOf function).calls.length ≤ context.limits.sites := by
  unfold bodyOf
  split
  · simp
  · rename_i body _
    have bound := context.scanAlong_size_le
      (Node.shallow context.limits.depth [(body, 0)]) 0 {} (by simp)
    rw [← scanCalls_eq] at bound
    simpa using bound

theorem bodyOf_valid {context : Context} {function : Node} {site : CallSite}
    (member : site ∈ (context.bodyOf function).calls) : site.Valid := by
  obtain ⟨read, _, calls, _⟩ := context.bodyOf_reads function
  rw [calls] at member
  obtain ⟨_, _, found⟩ := List.mem_filterMap.mp member
  exact (Source.siteOf?_spec found).1

/-- A call in a function stands at one of the nodes of the function. -/
theorem bodyOf_location {context : Context} {function : Node} {site : CallSite}
    (member : site ∈ (context.bodyOf function).calls) :
    ∃ node ∈ function.preorder, site.location = context.source.location node := by
  obtain ⟨read, kept, calls, _⟩ := context.bodyOf_reads function
  rw [calls] at member
  obtain ⟨node, present, found⟩ := List.mem_filterMap.mp member
  exact ⟨node, kept.subset present, (Source.siteOf?_spec found).2⟩

theorem bodyOf_dynamic {context : Context} {function : Node} {dependency : Import}
    (member : dependency ∈ (context.bodyOf function).imports) : dependency.isDynamic = true := by
  obtain ⟨read, _, _, imports⟩ := context.bodyOf_reads function
  rw [imports] at member
  obtain ⟨_, _, found⟩ := List.mem_filterMap.mp member
  exact (Source.dependencyOf?_spec found).1

theorem bodyOf_cut {first second : Context} (source : first.source = second.source)
    (depth : first.limits.depth = second.limits.depth)
    (sites : first.limits.sites ≤ second.limits.sites)
    (cancelled : second.cancelled = true → first.cancelled = true) (function : Node) :
    (first.bodyOf function).calls <+: (second.bodyOf function).calls ∧
      (first.bodyOf function).imports <+: (second.bodyOf function).imports := by
  unfold bodyOf
  split
  · exact ⟨List.prefix_refl _, List.prefix_refl _⟩
  · simp only [scanCalls_eq, depth]
    exact scanAlong_cut source sites cancelled _ 0 {}

end Context
end ScriptAtlas
