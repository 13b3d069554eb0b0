import ScriptAtlas.Config
import ScriptAtlas.Extract.Require
import ScriptAtlas.Notice

/-! The calls of a body: a bounded walk in pre-order that records calls and constructions, and
dynamic imports apart from them. -/
namespace ScriptAtlas
open SyntaxTree

namespace Source

/-- Names that are never callbacks: literals and the ambient globals. -/
def ambientNames : List String :=
  ["true", "false", "null", "undefined", "arguments", "console", "document", "exports", "global",
    "globalThis", "module", "process", "require", "window"]

/-- The arguments of a call that may be callbacks: identifiers, and members of at most fifty bytes
that call nothing themselves. -/
def callbackArgs (source : Source) (call : Node) : List String :=
  match call.child? .arguments with
  | none => []
  | some list =>
    list.namedChildren.filterMap fun argument =>
      let text := source.text argument
      match argument.kind with
      | .identifier => if ambientNames.contains text then none else some text
      | .memberExpression =>
        if text.utf8ByteSize ≤ 50 ∧ !text.toList.contains '(' then some text else none
      | _ => none

/-- What is called: a name, or a member of a receiver. -/
def callTarget? (source : Source) (callee : Node) : Option (String × Option String) :=
  match callee.kind with
  | .identifier => some (source.text callee, none)
  | .memberExpression => do
    let property ← callee.child? .property
    let object ← callee.child? .object
    return (source.text property, some (source.text object))
  | _ => none

/-- The call site of a node whose target stands under a field; an empty target is none. -/
def callSiteUnder? (source : Source) (node : Node) (field : Field) (functionArgs : List String) :
    Option CallSite := do
  let callee ← node.child? field
  let (target, receiver) ← source.callTarget? callee
  guard !target.isEmpty
  return {
    target
    receiver
    isMethod := receiver.isSome
    functionArgs
    location := source.location node }

/-- The import of `import("path")` with exactly one argument. -/
def dynamicImport? (source : Source) (call : Node) : Option Import := do
  let callee ← call.child? .callee
  guard (callee.kind = .importKeyword)
  let list ← call.child? .arguments
  match list.namedChildren with
  | [argument] =>
    let path ← source.stringValue? argument
    return { path, isDynamic := true, isModule := true, location := source.location call }
  | _ => none

end Source

/-- What a single node of a body contributes. -/
inductive Mention where
  | dependency (dependency : Import)
  | call (site : CallSite)
deriving DecidableEq

/-- A dynamic import takes precedence over a call site. -/
def Source.mention? (source : Source) (node : Node) : Option Mention :=
  match node.kind with
  | .callExpression =>
    match source.dynamicImport? node with
    | some dependency => some (.dependency dependency)
    | none => (source.callSiteUnder? node .callee (source.callbackArgs node)).map .call
  | .newExpression => (source.callSiteUnder? node .constructorName []).map .call
  | _ => none

/-- Why a walk ended. -/
inductive ScanEnd where
  | complete
  | full
  | cancelled (visited : Nat)
deriving DecidableEq

/-- The calls and dynamic imports of one body; either list may be cut short. -/
structure CallScan where
  calls : Array CallSite := #[]
  imports : Array Import := #[]
  ending : ScanEnd := .complete
deriving DecidableEq

namespace CallScan

def truncated (scan : CallScan) : Bool := scan.ending != .complete

def add (scan : CallScan) : Option Mention → CallScan
  | none => scan
  | some (.dependency dependency) => { scan with imports := scan.imports.push dependency }
  | some (.call site) => { scan with calls := scan.calls.push site }

end CallScan

/-- What a file is read with: its source, the bounds of call scans, and whether the caller has
cancelled the work. -/
structure Context where
  source : Source
  limits : CallLimits
  cancelled : Bool

namespace Context

/-- How many nodes are visited between two looks at the cancellation flag. -/
def pollInterval : Nat := 100

/-- Walk on from a stack of nodes with their depths. Nodes below the depth limit are skipped; the
walk ends at the first node after the number of recorded calls has reached its limit. -/
def scanFrom (context : Context) (stack : List (Node × Nat)) (visited : Nat) (scan : CallScan) :
    CallScan :=
  match stack with
  | [] => scan
  | (node, depth) :: rest =>
    if context.limits.depth < depth then context.scanFrom rest visited scan
    else if (visited + 1) % pollInterval == 0 && context.cancelled then
      { scan with ending := .cancelled (visited + 1) }
    else if context.limits.sites ≤ scan.calls.size then { scan with ending := .full }
    else
      context.scanFrom (node.children.map (·, depth + 1) ++ rest) (visited + 1)
        (scan.add (context.source.mention? node))
termination_by Node.sizes (stack.map (·.1))
decreasing_by
  · simp only [List.map_cons, Node.sizes]
    have := node.size_pos
    omega
  · simp [Function.comp_def, Node.sizes, Node.sizes_append, Node.size_eq node]

/-- The calls of a body. -/
def scanCalls (context : Context) (body : Node) : CallScan := context.scanFrom [(body, 0)] 0 {}

/-- What the body of a function yields. -/
structure Body where
  calls : List CallSite := []
  imports : List Import := []
  notices : List Notice := []
deriving DecidableEq

/-- The notices of a scan that was cut short. -/
def scanNotices (context : Context) (body : Node) (scan : CallScan) : List Notice :=
  let cut := Notice.scanTruncated (context.source.row body.start + 1)
  match scan.ending with
  | .complete => []
  | .full => [cut]
  | .cancelled visited => [.scanCancelled visited, cut]

/-- Read the body of a function, if it has one. -/
def bodyOf (context : Context) (function : Node) : Body :=
  match function.child? .body with
  | none => {}
  | some body =>
    let scan := context.scanCalls body
    { calls := scan.calls.toList
      imports := scan.imports.toList
      notices := context.scanNotices body scan }

end Context
end ScriptAtlas
