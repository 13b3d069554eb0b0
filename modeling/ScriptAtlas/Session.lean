import ScriptAtlas.Service

/-! Series of requests that share cancellation tokens. A token and its clones are cancelled
together, and nothing undoes a cancellation. -/
namespace ScriptAtlas

/-- The tokens of a session: each belongs to a group of clones, and some groups are cancelled. -/
structure Tokens where
  groups : Array Nat
  cancelled : List Nat
deriving DecidableEq

namespace Tokens

/-- A session begins with one fresh token. -/
def initial : Tokens := ⟨#[0], []⟩

/-- The group of a token. -/
def group (tokens : Tokens) (token : Nat) : Nat := tokens.groups[token]?.getD token

def isCancelled (tokens : Tokens) (token : Nat) : Bool :=
  tokens.cancelled.contains (tokens.group token)

/-- A fresh token opens a group, numbered like the token itself. -/
def fresh (tokens : Tokens) : Tokens :=
  { tokens with groups := tokens.groups.push tokens.groups.size }

/-- A clone joins the group of its model. -/
def clone (tokens : Tokens) (token : Nat) : Tokens :=
  { tokens with groups := tokens.groups.push (tokens.group token) }

def cancel (tokens : Tokens) (token : Nat) : Tokens :=
  { tokens with cancelled := tokens.group token :: tokens.cancelled }

/-- The state of every token. -/
def states (tokens : Tokens) : List Bool :=
  (List.range tokens.groups.size).map tokens.isCancelled

end Tokens

/-- A request of a session; work on files runs under a token. -/
inductive SessionStep where
  | fresh
  | clone (token : Nat)
  | cancel (token : Nat)
  | isCancelled (token : Nat)
  | extract (token : Nat) (file : InputFile)
  | batch (token : Nat) (files : List InputFile)

inductive SessionReply where
  | token (index : Nat)
  | states (flags : List Bool)
  | flag (value : Bool)
  | file (answer : FileAnswer)
  | files (answers : List FileAnswer)

/-- Take one step. -/
def Tokens.step (config : Config) (tokens : Tokens) : SessionStep → Tokens × SessionReply
  | .fresh => (tokens.fresh, .token tokens.groups.size)
  | .clone token => (tokens.clone token, .token tokens.groups.size)
  | .cancel token =>
    let after := tokens.cancel token
    (after, .states after.states)
  | .isCancelled token => (tokens, .flag (tokens.isCancelled token))
  | .extract token file => (tokens, .file (extractFile config (tokens.isCancelled token) file))
  | .batch token files => (tokens, .files (extractBatch config (tokens.isCancelled token) files))

/-- The replies to a series of steps. -/
def Tokens.run (config : Config) : Tokens → List SessionStep → List SessionReply
  | _, [] => []
  | tokens, step :: rest =>
    let (after, reply) := tokens.step config step
    reply :: after.run config rest

end ScriptAtlas
