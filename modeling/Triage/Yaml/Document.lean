import Triage.Yaml.Scalar

namespace Triage
namespace Yaml

/-!
Values of YAML texts.

A mapping may take over the entries of others, which then come first; a key that comes twice
keeps its first place and its last value.  Nodes are looked at one depth after another, so of
several faults the one nearest to the root is reported.
-/

namespace Node

/-- The entries of mappings that another one takes over, the last mapping first. -/
def mergedEntries : List (List (Node × Node)) -> List (Node × Node)
  | [] => []
  | entries :: more => mergedEntries more ++ entries

mutual

/-- The entries of a mapping with the ones it takes over in front. -/
def expand : Nat -> List (Node × Node) -> Except Fault (List (Node × Node))
  | 0, _ => .error .malformed
  | fuel + 1, entries => do
      let taken <- entries.flatMapM fun entry =>
        if entry.1.tag == .merge then taken fuel entry.2 else pure []
      pure (taken ++ entries.filter fun entry => entry.1.tag != .merge)

/-- What a node offers to the mapping that takes it over. -/
def taken : Nat -> Node -> Except Fault (List (Node × Node))
  | 0, _ => .error .malformed
  | fuel + 1, node =>
      match node with
      | .mapping _ entries => expand fuel entries
      | .sequence _ items => do
          let all <- items.mapM fun item =>
            match item with
            | .mapping _ entries => expand fuel entries
            | _ => .error .malformed
          pure (mergedEntries all)
      | .scalar _ _ => .error .malformed

end

mutual

/-- How deep a node is. -/
def depth : Node -> Nat
  | .scalar _ _ => 1
  | .sequence _ items => depthOfAll items + 1
  | .mapping _ entries => depthOfEntries entries + 1

/-- How deep the deepest of some nodes is. -/
def depthOfAll : List Node -> Nat
  | [] => 0
  | item :: items => max (depth item) (depthOfAll items)

/-- How deep the deepest key or value is. -/
def depthOfEntries : List (Node × Node) -> Nat
  | [] => 0
  | (key, value) :: entries => max (max (depth key) (depth value)) (depthOfEntries entries)

end

/-- The entries of a mapping once merged; faulty merges leave none. -/
def entriesOf (fuel : Nat) (entries : List (Node × Node)) : List (Node × Node) :=
  ((expand fuel entries).toOption).getD []

/-- The text that stands for a mapping where a single text is wanted. -/
def standIn (node : Node) : Nat -> Option String
  | 0 => none
  | fuel + 1 =>
      match node with
      | .scalar _ text => some text
      | .mapping _ entries =>
          (entries.find? fun entry => entry.1.tag == .standIn).bind fun entry =>
            entry.2.standIn fuel
      | .sequence _ _ => none

/-- Whether a kind is that of a collection. -/
def isCollection : Tag -> Bool
  | .sequence | .mapping | .set | .ordered | .pairs => true
  | _ => false

/-- The single entry of a mapping with one entry. -/
def singlePair? : Node -> Option (Node × Node)
  | .mapping _ [entry] => some entry
  | _ => none

/-- A key, as it counts in its mapping. -/
def asKey (key : Node) : Node :=
  match key with
  | .scalar .standIn text => .scalar .text text
  | other => other

/-- What a node gives on its own, the parts of a collection left aside. -/
def own (fuel : Nat) (node : Node) : Except Fault Value :=
  if isCollection node.tag then .ok .null
  else match node.standIn fuel with
    | some text => Scalar.value node.tag text
    | none => .error .malformed

def isKeyNode (node : Node) : Bool := !isCollection node.tag

/-- The parts that a node consists of, in the order they are looked at. -/
def parts (fuel : Nat) (node : Node) : Except Fault (List (Node × Bool)) :=
  let ofEntries (entries : List (Node × Node)) : List (Node × Bool) :=
    entries.flatMap fun entry => [(asKey entry.1, true), (entry.2, false)]
  match node.tag, node with
  | .sequence, .sequence _ items => .ok (items.map fun item => (item, false))
  | .mapping, .mapping _ entries => (expand fuel entries).map ofEntries
  | .set, .mapping _ entries => (expand fuel entries).map ofEntries
  | .ordered, .sequence _ items => do
      let entries <- items.mapM fun item => (singlePair? item).elim (.error .malformed) .ok
      pure (entries.flatMap fun entry => [(entry.1, false), (entry.2, false)])
  | .pairs, .sequence _ items => do
      let entries <- items.mapM fun item => (singlePair? item).elim (.error .malformed) .ok
      pure (entries.flatMap fun entry => [(entry.1, false), (entry.2, false)])
  | tag, _ => if isCollection tag then .error .malformed else .ok []

/-- Looks at nodes of one depth and gathers the collections among them. -/
def checkParts (fuel : Nat) : List (Node × Bool) -> Except Fault (List Node)
  | [] => .ok []
  | (node, isKey) :: more => do
      discard (own fuel node)
      if isKey && !isKeyNode node then throw .malformed
      let rest <- checkParts fuel more
      pure (if isCollection node.tag then node :: rest else rest)

/-- Looks at the parts of several nodes. -/
def checkDepth (fuel : Nat) : List Node -> Except Fault (List Node)
  | [] => .ok []
  | node :: nodes => do
      let below <- checkParts fuel (<- node.parts fuel)
      pure (below ++ (<- checkDepth fuel nodes))

/-- Looks at all nodes, one depth after another. -/
def checkAll (fuel : Nat) : Nat -> List Node -> Except Fault Unit
  | 0, _ => .ok ()
  | depth + 1, nodes => do
      let below <- checkDepth fuel nodes
      if below.isEmpty then pure () else checkAll fuel depth below

/-- The value of a node without faults. -/
def value (fuel : Nat) : Nat -> Node -> Value
  | 0, _ => .null
  | depth + 1, node =>
      let below := value fuel depth
      let pairOf (item : Node) : Value :=
        match singlePair? item with
        | some (key, value) => .pair (below key) (below value)
        | none => .null
      match node.tag, node with
      | .sequence, .sequence _ items => .list (items.map below)
      | .ordered, .sequence _ items => .list (items.map pairOf)
      | .pairs, .sequence _ items => .list (items.map pairOf)
      | .mapping, .mapping _ entries =>
          .mapping ((entriesOf fuel entries).foldl
            (fun done entry => Value.putEntry done (below (asKey entry.1)) (below entry.2)) [])
      | .set, .mapping _ entries =>
          .set (((entriesOf fuel entries).foldl
            (fun done entry => Value.putEntry done (below (asKey entry.1)) .null) []).map (·.1))
      | _, _ => ((own fuel node).toOption).getD .null

end Node

namespace Document

def valueOf (node : Node) : Except Fault Value := do
  let depth := 2 * node.depth + 2
  let below <- Node.checkParts depth [(node, false)]
  Node.checkAll depth depth below
  pure (node.value depth depth)

/-- Line breaks of every kind that files know, as single line feeds. -/
def unifyBreaks : List Char -> List Char
  | [] => []
  | '\r' :: '\n' :: rest => '\n' :: unifyBreaks rest
  | '\r' :: rest => '\n' :: unifyBreaks rest
  | c :: rest => c :: unifyBreaks rest

/-- Reads the value of a text; a text without a document has the null value. -/
def ofChars (text : List Char) : Except Fault Value := do
  match <- Node.ofDocument (unifyBreaks text) with
  | some node => valueOf node
  | none => pure .null

def read (text : String) : Except Fault Value := ofChars text.toList

end Document
end Yaml
end Triage
