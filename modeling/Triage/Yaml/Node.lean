import Triage.Yaml.Token.Lexer
import Triage.Yaml.Plain

namespace Triage
namespace Yaml

/-!
Nodes: what a YAML text holds, before its texts become values.

Nodes are read off the tokens.  A name given to a node stands for that node wherever it is
used later; a node cannot hold itself.
-/

inductive Node where
  | scalar (tag : Tag) (text : String)
  | sequence (tag : Tag) (items : List Node)
  | mapping (tag : Tag) (entries : List (Node × Node))
deriving Inhabited

namespace Node

/-- The node that stands where nothing is written. -/
def empty : Node := .scalar .null ""

/-- The kind of a node. -/
def tag : Node -> Tag
  | scalar tag _ => tag
  | sequence tag _ => tag
  | mapping tag _ => tag

/-- What is left to read, and the names known so far; a name without node is still open. -/
structure Source where
  tokens : List Token
  names : List (String × Option Node)
  handles : List (String × String)

/-- A reader of nodes. -/
abbrev Grammar (A : Type) := StateT Source (Except Fault) A

namespace Grammar

/-- Refuses the text. -/
def refuse {A : Type} : Grammar A := throw .malformed

/-- The next token. -/
def peek : Grammar (Option Token) := do pure (<- get).tokens.head?

/-- Moves over a token. -/
def advance : Grammar Unit := modify fun source => { source with tokens := source.tokens.drop 1 }

/-- Whether one of some tokens comes next. -/
def isNext (tokens : List Token) : Grammar Bool := do
  pure (((<- peek).map tokens.contains).getD false)

/-- Moves over a token if it comes next. -/
def accept (token : Token) : Grammar Bool := do
  let found <- isNext [token]
  if found then advance
  pure found

/-- Opens a name, which must be a new one. -/
def openName (name : String) : Grammar Unit := do
  if (<- get).names.any fun entry => entry.1 == name then refuse
  modify fun source => { source with names := (name, none) :: source.names }

/-- Gives an open name its node. -/
def closeName (name : String) (node : Node) : Grammar Unit :=
  modify fun source =>
    { source with names := source.names.map fun entry =>
        if entry.1 == name then (name, some node) else entry }

def nodeOf (name : String) : Grammar Node := do
  match (<- get).names.lookup name with
  | some (some node) => pure node
  | _ => refuse

/-- The tag that a written tag stands for; nothing when the node shall choose for itself. -/
def tagOf (handle : Option String) (rest : String) : Grammar (Option Tag) := do
  let address <- match handle with
    | none => pure rest
    | some handle =>
        match (<- get).handles.lookup handle with
        | some meaning => pure (meaning ++ rest)
        | none => refuse
  pure (if address == "!" then none else some (Tag.ofAddress address))

/-- A written name and tag in front of a node. -/
structure Properties where
  name : Option String
  /-- A written tag, which may leave the choice to the node. -/
  tag : Option (Option Tag)

/-- Reads name and tag in either order, each at most once. -/
def properties : Grammar Properties := do
  match <- peek with
  | some (.anchor name) =>
      advance
      match <- peek with
      | some (.tag handle rest) => do
          advance
          pure ⟨some name, some (<- tagOf handle rest)⟩
      | _ => pure ⟨some name, none⟩
  | some (.tag handle rest) =>
      advance
      match <- peek with
      | some (.anchor name) => do
          advance
          pure ⟨some name, some (<- tagOf handle rest)⟩
      | _ => pure ⟨none, some (<- tagOf handle rest)⟩
  | _ => pure ⟨none, none⟩

/-- The chosen tag, or else the one that fits the node. -/
def Properties.tagOr (properties : Properties) (fitting : Tag) : Tag :=
  (properties.tag.bind id).getD fitting

/-- The node of a single text. -/
def ofText (properties : Properties) (plain : Bool) (text : String) : Node :=
  let asPlain := plain || properties.tag.isSome
  .scalar (properties.tagOr (if asPlain then Plain.tagOf text else .text)) text

mutual

/-- Reads a node; blocks may begin only outside of brackets. -/
def node (block flush : Bool) : Nat -> Grammar Node
  | 0 => refuse
  | fuel + 1 => do
      match <- peek with
      | some (.alias_ name) => do
          advance
          nodeOf name
      | _ => do
          let properties <- properties
          match properties.name with
          | none => content block flush properties fuel
          | some name => do
              openName name
              let node <- content block flush properties fuel
              closeName name node
              pure node

/-- Reads what follows name and tag. -/
def content (block flush : Bool) (properties : Properties) : Nat -> Grammar Node
  | 0 => refuse
  | fuel + 1 => do
      let sequence (items : List Node) : Node := .sequence (properties.tagOr .sequence) items
      let mapping (entries : List (Node × Node)) : Node :=
        .mapping (properties.tagOr .mapping) entries
      match <- peek, block with
      | some (.scalar plain text), _ => do
          advance
          pure (ofText properties plain text)
      | some .openList, _ => do
          advance
          pure (sequence (<- listItems true fuel))
      | some .openRecord, _ => do
          advance
          pure (mapping (<- recordEntries true fuel))
      | some .openSequence, true => do
          advance
          pure (sequence (<- blockItems [.entry, .closeBlock] true fuel))
      | some .openMapping, true => do
          advance
          pure (mapping (<- blockEntries fuel))
      | some .entry, _ =>
          if flush then
            do pure (sequence (<- blockItems [.entry, .key, .value, .closeBlock] false fuel))
          else absent properties
      | _, _ => absent properties

/-- The node of a name or tag that nothing follows. -/
def absent (properties : Properties) : Grammar Node :=
  if properties.name.isSome || properties.tag.isSome then pure (ofText properties true "")
  else refuse

/-- Reads a node unless one of some tokens shows that there is none. -/
def nodeUnless (enders : List Token) (block flush : Bool) : Nat -> Grammar Node
  | 0 => refuse
  | fuel + 1 => do
      if <- isNext enders then pure empty else node block flush fuel

/-- Reads the items of a block; one that is not indented has no end of its own. -/
def blockItems (enders : List Token) (closed : Bool) : Nat -> Grammar (List Node)
  | 0 => refuse
  | fuel + 1 => do
      if <- accept .entry then
        let item <- nodeUnless enders true false fuel
        let items <- blockItems enders closed fuel
        pure (item :: items)
      else if !closed then pure []
      else if <- accept .closeBlock then pure []
      else refuse

/-- Reads the value of an entry if there is one. -/
def entryValue (enders : List Token) (block : Bool) : Nat -> Grammar Node
  | 0 => refuse
  | fuel + 1 => do
      if <- accept .value then nodeUnless enders block block fuel else pure empty

/-- Reads the entries of a block. -/
def blockEntries : Nat -> Grammar (List (Node × Node))
  | 0 => refuse
  | fuel + 1 => do
      let enders := [Token.key, .value, .closeBlock]
      if <- accept .key then
        let key <- nodeUnless enders true true fuel
        let value <- entryValue enders true fuel
        let entries <- blockEntries fuel
        pure ((key, value) :: entries)
      else if <- accept .closeBlock then pure []
      else refuse

/-- Reads the items of a list in brackets; an item may be a single entry of a mapping. -/
def listItems (first : Bool) : Nat -> Grammar (List Node)
  | 0 => refuse
  | fuel + 1 => do
      if <- accept .closeList then pure []
      else
        if !first then
          unless <- accept .comma do refuse
        if <- accept .key then
          let key <- nodeUnless [.value, .comma, .closeList] false false fuel
          let value <- entryValue [.comma, .closeList] false fuel
          let items <- listItems false fuel
          pure (.mapping .mapping [(key, value)] :: items)
        else if <- accept .closeList then pure []
        else
          let item <- node false false fuel
          let items <- listItems false fuel
          pure (item :: items)

/-- Reads the entries of a mapping in braces; an entry without colon has no value. -/
def recordEntries (first : Bool) : Nat -> Grammar (List (Node × Node))
  | 0 => refuse
  | fuel + 1 => do
      if <- accept .closeRecord then pure []
      else
        if !first then
          unless <- accept .comma do refuse
        if <- accept .key then
          let key <- nodeUnless [.value, .comma, .closeRecord] false false fuel
          let value <- entryValue [.comma, .closeRecord] false fuel
          let entries <- recordEntries false fuel
          pure ((key, value) :: entries)
        else if <- accept .closeRecord then pure []
        else
          let key <- node false false fuel
          let entries <- recordEntries false fuel
          pure ((key, empty) :: entries)

end

/-- The handles that need no directive. -/
def standardHandles : List (String × String) := [("!", "!"), ("!!", Tag.home)]

/-- Reads the directives of a document: one version at most, and each handle once. -/
def directives : Nat -> Bool -> Grammar Unit
  | 0, _ => refuse
  | fuel + 1, versioned => do
      match <- peek with
      | some (.version major) => do
          if versioned || major != 1 then refuse
          advance
          directives fuel true
      | some (.tagHandle name meaning) => do
          if (<- get).handles.any fun entry => entry.1 == name then refuse
          modify fun source => { source with handles := source.handles ++ [(name, meaning)] }
          advance
          directives fuel versioned
      | some .directive => do
          advance
          directives fuel versioned
      | _ => modify fun source => { source with handles := source.handles ++ standardHandles }

/-- Moves over the marks that end a document. -/
def endMarks : Nat -> Grammar Unit
  | 0 => pure ()
  | fuel + 1 => do
      if <- accept .documentEnd then endMarks fuel

/-- Whether a document begins with directives or a mark. -/
def isAnnounced : Option Token -> Bool
  | some (.version _) => true
  | some (.tagHandle _ _) => true
  | some .directive => true
  | some .documentStart => true
  | _ => false

/-- Reads the only document of a text, if there is one. -/
def document (fuel : Nat) : Grammar (Option Node) := do
  match <- peek with
  | none => pure none
  | first => do
      let node <-
        if isAnnounced first then do
          directives fuel false
          unless <- accept .documentStart do refuse
          let next <- peek
          if isAnnounced next || next == some .documentEnd || next == none then pure empty
          else node true false fuel
        else do
          modify fun source => { source with handles := standardHandles }
          node true false fuel
      endMarks fuel
      if (<- peek).isSome then refuse
      pure (some node)

end Grammar

/-- The node that a text holds, if it holds any. -/
def ofDocument (text : List Char) : Except Fault (Option Node) := do
  let tokens <- Token.ofText text
  let fuel := 4 * tokens.length + 8
  (Grammar.document fuel).run' ⟨tokens, [], []⟩

end Node
end Yaml
end Triage
