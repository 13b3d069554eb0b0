import ScriptAtlas.Proofs.Scan
import Mathlib.Data.List.Infix

/-! How far a scan of a body reads. The depth limit chooses the nodes that a scan may read, a
cancelled one stops before its first look at the flag, and the limit on calls ends it at the
shortest beginning that yields as many. What is found is what the nodes read so far yield, and a
scan is cut short exactly if it leaves a node within its depth unread. -/
namespace ScriptAtlas
open SyntaxTree

/-- The nodes of a subtree that lie at most `limit` levels below its root, in pre-order. -/
def SyntaxTree.Node.withinDepth (node : Node) (limit : Nat) : List Node :=
  ((node.levels 0).filter fun item => item.2 ≤ limit).map (·.1)

theorem SyntaxTree.Node.shallow_singleton (limit : Nat) (node : Node) :
    shallow limit [(node, 0)] = node.withinDepth limit := by
  simp [shallow, withinDepth]

theorem filterMap_cons_eq_append {α β : Type} (yield : α → Option β) (item : α) (rest : List α) :
    (item :: rest).filterMap yield = (yield item).toList ++ rest.filterMap yield := by
  rw [List.filterMap_cons]
  cases yield item <;> rfl

namespace Source

/-- The shortest beginning of a list of nodes that yields `sites` calls, or the whole list if none
does. -/
def shortestYielding (source : Source) (sites : Nat) (nodes : List Node) : List Node :=
  (nodes.inits.find? fun read => sites ≤ (read.filterMap source.siteOf?).length).getD nodes

variable (source : Source)

@[simp] theorem shortestYielding_nil (sites : Nat) : source.shortestYielding sites [] = [] := by
  unfold shortestYielding
  by_cases none : sites = 0 <;> simp [none]

@[simp] theorem shortestYielding_zero (nodes : List Node) :
    source.shortestYielding 0 nodes = [] := by
  cases nodes <;> simp [shortestYielding]

/-- Until the calls suffice, a node is read and its own call counts. -/
theorem shortestYielding_cons {sites : Nat} (wanted : 0 < sites) (node : Node)
    (rest : List Node) :
    source.shortestYielding sites (node :: rest) =
      node :: source.shortestYielding (sites - (source.siteOf? node).toList.length) rest := by
  have enough (read : List Node) :
      sites ≤ ((node :: read).filterMap source.siteOf?).length ↔
        sites - (source.siteOf? node).toList.length ≤ (read.filterMap source.siteOf?).length := by
    rw [filterMap_cons_eq_append, List.length_append]
    omega
  unfold shortestYielding
  rw [List.inits_cons, List.find?_cons_of_neg (by simpa using wanted.ne'), List.find?_map]
  simp only [Function.comp_def, enough]
  cases rest.inits.find? _ <;> rfl

end Source

namespace CallScan

variable (scan : CallScan) (source : Source) (node : Node)

theorem add_ending (mention : Option Mention) : (scan.add mention).ending = scan.ending := by
  unfold add
  split <;> rfl

theorem add_calls_size :
    (scan.add (source.mention? node)).calls.size =
      scan.calls.size + (source.siteOf? node).toList.length := by
  simpa using congrArg List.length (scan.add_calls source node)

end CallScan

namespace Context

/-- The nodes that a scan may read when it has visited some: all of them, unless it is cancelled
and will find out at its next look at the flag. -/
def readable (context : Context) (visited : Nat) (nodes : List Node) : List Node :=
  if context.cancelled then nodes.take (pollInterval - 1 - visited) else nodes

theorem readable_cons (context : Context) {visited : Nat}
    (early : context.cancelled = true → visited + 1 < pollInterval) (node : Node)
    (rest : List Node) :
    context.readable visited (node :: rest) = node :: context.readable (visited + 1) rest := by
  unfold readable
  split
  · rename_i cancelled
    have bound := early cancelled
    have left : pollInterval - 1 - visited = pollInterval - 1 - (visited + 1) + 1 := by omega
    rw [left, List.take_succ_cons]
  · rfl

/-- What is left of a scan reads the shortest beginning of its readable nodes that fills the limit
on calls, and is cut short exactly if that leaves a node out. -/
theorem scanAlong_extent (context : Context) (nodes : List Node) (visited : Nat) (scan : CallScan)
    (early : context.cancelled = true → visited < pollInterval)
    (running : scan.ending = .complete) :
    let read := context.source.shortestYielding (context.limits.sites - scan.calls.size)
      (context.readable visited nodes)
    let result := context.scanAlong nodes visited scan
    result.calls.toList = scan.calls.toList ++ read.filterMap context.source.siteOf? ∧
    result.imports.toList = scan.imports.toList ++ read.filterMap context.source.dependencyOf? ∧
    (result.truncated = true ↔ read.length < nodes.length) := by
  induction nodes generalizing visited scan with
  | nil => simp [scanAlong, readable, CallScan.truncated, running]
  | cons node rest ih =>
    rw [scanAlong]
    split
    · -- The flag is looked at, so no node is readable any more.
      rename_i stop
      obtain ⟨poll, cancelled⟩ := Bool.and_eq_true_iff.mp stop
      have last : pollInterval - 1 - visited = 0 := by
        have bound := early cancelled
        have due : (visited + 1) % pollInterval = 0 := by simpa using poll
        simp only [pollInterval] at bound due ⊢
        omega
      simp [readable, cancelled, last, CallScan.truncated]
    rename_i on
    split
    · rename_i full
      have spent : context.limits.sites - scan.calls.size = 0 := Nat.sub_eq_zero_of_le full
      simp [spent, CallScan.truncated]
    · rename_i room
      have room : 0 < context.limits.sites - scan.calls.size := by omega
      have early : context.cancelled = true → visited + 1 < pollInterval := by
        intro cancelled
        have undue : ¬ (visited + 1) % pollInterval = 0 := by simpa [cancelled] using on
        have bound := early cancelled
        simp only [pollInterval] at undue bound ⊢
        omega
      obtain ⟨calls, imports, truncated⟩ :=
        ih (visited + 1) (scan.add (context.source.mention? node)) early
          (by rw [CallScan.add_ending, running])
      rw [CallScan.add_calls_size, ← Nat.sub_sub] at calls imports truncated
      simp only [context.readable_cons early, Source.shortestYielding_cons _ room]
      refine ⟨?_, ?_, ?_⟩
      · rw [calls, CallScan.add_calls, filterMap_cons_eq_append, List.append_assoc]
      · rw [imports, CallScan.add_imports, filterMap_cons_eq_append, List.append_assoc]
      · rw [truncated, List.length_cons, List.length_cons, Nat.add_lt_add_iff_right]

/-- A scan of a body records the calls and the dynamic imports of a beginning of the nodes within
its depth, taken in pre-order: if it is cancelled only the first 99 nodes count, and of these the
shortest beginning that yields as many calls as the limit allows, or all. A call yields its call
site unless it is a dynamic import, a construction its call site, and no other node yields anything.
The scan is cut short exactly if some node within its depth is left over. -/
theorem scanCalls_extent (context : Context) (body : Node) :
    let inDepth := body.withinDepth context.limits.depth
    let readable := if context.cancelled then inDepth.take 99 else inDepth
    let read := context.source.shortestYielding context.limits.sites readable
    let scan := context.scanCalls body
    scan.calls.toList = read.filterMap context.source.siteOf? ∧
    scan.imports.toList = read.filterMap context.source.dependencyOf? ∧
    (scan.truncated = true ↔ read.length < inDepth.length) := by
  have extent := context.scanAlong_extent (body.withinDepth context.limits.depth) 0 {}
    (fun _ => by decide) rfl
  rw [← Node.shallow_singleton, ← scanCalls_eq, Node.shallow_singleton] at extent
  simpa [readable, pollInterval] using extent

/-- The tree of the block `import('x'); run(done, next()); new Box(); more();`. -/
def sampleBlock : Node :=
  ⟨.statementBlock, true, false, none, 0, 54, [
    ⟨.other "\x7b", false, false, none, 0, 1, []⟩,
    ⟨.expressionStatement, true, false, none, 2, 14, [
      ⟨.callExpression, true, false, none, 2, 13, [
        ⟨.importKeyword, true, false, some .callee, 2, 8, []⟩,
        ⟨.arguments, true, false, some .arguments, 8, 13, [
          ⟨.other "(", false, false, none, 8, 9, []⟩,
          ⟨.stringLiteral, true, false, none, 9, 12, []⟩,
          ⟨.other ")", false, false, none, 12, 13, []⟩]⟩]⟩,
      ⟨.other ";", false, false, none, 13, 14, []⟩]⟩,
    ⟨.expressionStatement, true, false, none, 15, 33, [
      ⟨.callExpression, true, false, none, 15, 32, [
        ⟨.identifier, true, false, some .callee, 15, 18, []⟩,
        ⟨.arguments, true, false, some .arguments, 18, 32, [
          ⟨.other "(", false, false, none, 18, 19, []⟩,
          ⟨.identifier, true, false, none, 19, 23, []⟩,
          ⟨.other ",", false, false, none, 23, 24, []⟩,
          ⟨.callExpression, true, false, none, 25, 31, [
            ⟨.identifier, true, false, some .callee, 25, 29, []⟩,
            ⟨.arguments, true, false, some .arguments, 29, 31, [
              ⟨.other "(", false, false, none, 29, 30, []⟩,
              ⟨.other ")", false, false, none, 30, 31, []⟩]⟩]⟩,
          ⟨.other ")", false, false, none, 31, 32, []⟩]⟩]⟩,
      ⟨.other ";", false, false, none, 32, 33, []⟩]⟩,
    ⟨.expressionStatement, true, false, none, 34, 44, [
      ⟨.newExpression, true, false, none, 34, 43, [
        ⟨.other "new", false, false, none, 34, 37, []⟩,
        ⟨.identifier, true, false, some .constructorName, 38, 41, []⟩,
        ⟨.arguments, true, false, some .arguments, 41, 43, [
          ⟨.other "(", false, false, none, 41, 42, []⟩,
          ⟨.other ")", false, false, none, 42, 43, []⟩]⟩]⟩,
      ⟨.other ";", false, false, none, 43, 44, []⟩]⟩,
    ⟨.expressionStatement, true, false, none, 45, 52, [
      ⟨.callExpression, true, false, none, 45, 51, [
        ⟨.identifier, true, false, some .callee, 45, 49, []⟩,
        ⟨.arguments, true, false, some .arguments, 49, 51, [
          ⟨.other "(", false, false, none, 49, 50, []⟩,
          ⟨.other ")", false, false, none, 50, 51, []⟩]⟩]⟩,
      ⟨.other ";", false, false, none, 51, 52, []⟩]⟩,
    ⟨.other "\x7d", false, false, none, 53, 54, []⟩]⟩

/-- With room for two calls at most three levels below the block, a scan of `sampleBlock` finds one
dynamic import, `run` with its callback and `Box`; `next` lies too deep, and `more` comes too
late. -/
theorem scanCalls_extent_sampleBlock :
    let text := "\x7b import('x'); run(done, next()); new Box(); more(); \x7d"
    let context : Context := ⟨Source.ofBytes "lib/a.js" text.toUTF8, ⟨3, 2⟩, false⟩
    let place := fun first last => (⟨"lib/a.js", 1, first, 1, last⟩ : Location)
    let scan := context.scanCalls sampleBlock
    scan.calls.toList =
      [⟨"run", none, false, ["done"], place 15 32⟩, ⟨"Box", none, false, [], place 34 43⟩] ∧
    scan.imports.toList =
      [{ path := "x", isDynamic := true, isModule := true, location := place 2 13 }] ∧
    scan.truncated = true := by
  intro text context place scan
  obtain ⟨calls, imports, truncated⟩ := context.scanCalls_extent sampleBlock
  refine ⟨calls.trans ?_, imports.trans ?_, truncated.mpr ?_⟩ <;> decide +kernel

end Context
end ScriptAtlas
