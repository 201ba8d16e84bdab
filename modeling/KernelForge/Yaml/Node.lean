/-!
The tree of a document: scalars, sequences and mappings, and aliases that refer to nodes with an anchor. A node has a
tag that says what it can denote, and a scalar knows the line that it starts on. The nodes with an anchor are kept
beside the tree, because one of them may contain an alias of itself.
-/

namespace KernelForge.Yaml

/-- A node of a document. Aliases and nodes with an anchor are numbered. -/
inductive Node
  | scalar (line : Nat) (tag text : String)
  | sequence (tag : String) (items : List Node)
  | mapping (tag : String) (entries : List (Node × Node))
  | alias (number : Nat) (name : String) (target : Nat)
  deriving Repr, Inhabited

/-- A document: its tree and its nodes with an anchor, by their numbers. -/
structure Document where
  root : Node
  anchored : List (Nat × Node)
  deriving Repr, Inhabited

/-- Whether a node is a scalar. -/
def Node.isScalar : Node → Bool
  | .scalar .. => true
  | _ => false

/-- Whether the tag of a node says that it denotes nothing. A collection can have that tag too, for no good reason. -/
def Node.isNull : Node → Bool
  | .scalar _ tag _ | .sequence tag _ | .mapping tag _ => tag == "!!null"
  | .alias .. => false

/-- Whether a node is the key by which another mapping is merged into a mapping. -/
def Node.isMergeKey : Node → Bool
  | .scalar _ tag text => text == "<<" && tag == "!!merge"
  | _ => false

/-- Whether two keys of a mapping are the same: nodes of one kind with one text. Collections have none. -/
def Node.sameKey : Node → Node → Bool
  | .scalar _ _ first, .scalar _ _ second => first == second
  | .sequence .., .sequence .. => true
  | .mapping .., .mapping .. => true
  | .alias _ first _, .alias _ second _ => first == second
  | _, _ => false

/-- Whether a key stands in a mapping twice. -/
def hasRepeatedKey : List (Node × Node) → Bool
  | [] => false
  | (key, _) :: rest => rest.any (fun entry => key.sameKey entry.1) || hasRepeatedKey rest

end KernelForge.Yaml
