import Triage.Yaml.Token.Scalar

namespace Triage
namespace Yaml
namespace Token

/-!
Cutting a text into tokens.

A key need not be announced: any node on one line becomes a key when a colon follows it.  So
the lexer remembers where a key may have begun, once for every depth of brackets, and puts
the key token in front of that place when the colon turns up.
-/

/-- A place where a key may have begun. -/
structure KeySpot where
  depth : Nat
  /-- The number of tokens before it. -/
  position : Nat
  /-- Whether the layout allows nothing but a key there. -/
  required : Bool
  index : Nat
  line : Nat
  column : Nat

/-- What the lexer knows between two tokens. -/
structure Lexer where
  cursor : Cursor
  tokens : Array Token
  /-- The columns of the open blocks, the innermost first. -/
  blocks : List Nat
  depth : Nat
  keyAllowed : Bool
  spots : List KeySpot

namespace Lexer

/-- The column of the innermost block; outside of all blocks it lies before the first one. -/
def indent (lexer : Lexer) : Int :=
  match lexer.blocks with
  | [] => -1
  | column :: _ => column

/-- Whether the lexer is outside of all brackets. -/
def inBlock (lexer : Lexer) : Bool := lexer.depth == 0

/-- Adds a token and moves on. -/
def emit (lexer : Lexer) (token : Token) (cursor : Cursor) : Lexer :=
  { lexer with tokens := lexer.tokens.push token, cursor := cursor }

/-- Says whether a key may begin next. -/
def allowKey (lexer : Lexer) (allowed : Bool) : Lexer := { lexer with keyAllowed := allowed }

/-- Puts tokens in front of others. -/
def insertAt (tokens : Array Token) (position : Nat) (more : Array Token) : Array Token :=
  tokens.extract 0 position ++ more ++ tokens.extract position tokens.size

/-- Forgets the spot of the current depth, which must not be a required one. -/
def dropSpot (lexer : Lexer) : Except Fault Lexer :=
  if lexer.spots.any fun spot => spot.depth == lexer.depth && spot.required then
    .error .malformed
  else .ok { lexer with spots := lexer.spots.filter fun spot => spot.depth != lexer.depth }

/-- Forgets spots on other lines or too far back; a required one must not be among them. -/
def dropStale (lexer : Lexer) : Except Fault Lexer :=
  let isStale (spot : KeySpot) : Bool :=
    spot.line != lexer.cursor.line || lexer.cursor.index - spot.index > 1024
  if lexer.spots.any fun spot => isStale spot && spot.required then .error .malformed
  else .ok { lexer with spots := lexer.spots.filter fun spot => !isStale spot }

/-- Remembers that a key may begin here. -/
def saveSpot (lexer : Lexer) : Except Fault Lexer :=
  if !lexer.keyAllowed then .ok lexer
  else do
    let cursor := lexer.cursor
    let required := lexer.inBlock && lexer.indent == cursor.column
    let lexer <- lexer.dropSpot
    let spot := ⟨lexer.depth, lexer.tokens.size, required, cursor.index, cursor.line, cursor.column⟩
    pure { lexer with spots := spot :: lexer.spots }

/-- Closes the blocks that are indented deeper than a column. -/
def closeBlocks (column : Int) : List Nat -> Array Token -> List Nat × Array Token
  | [], tokens => ([], tokens)
  | block :: blocks, tokens =>
      if column < block then closeBlocks column blocks (tokens.push .closeBlock)
      else (block :: blocks, tokens)

/-- Closes blocks up to a column; inside brackets indentation does not count. -/
def unwind (lexer : Lexer) (column : Int) : Lexer :=
  if !lexer.inBlock then lexer
  else
    let (blocks, tokens) := closeBlocks column lexer.blocks lexer.tokens
    { lexer with blocks := blocks, tokens := tokens }

/-- Opens a block at a column if that is deeper than the innermost one. -/
def openBlock (lexer : Lexer) (column position : Nat) (token : Token) : Lexer :=
  if lexer.indent < column then
    { lexer with
      blocks := column :: lexer.blocks
      tokens := insertAt lexer.tokens position #[token] }
  else lexer

/-- Moves to the next token; outside of brackets a new line lets a key begin. -/
def skipToToken : Nat -> Lexer -> Lexer
  | 0, lexer => lexer
  | fuel + 1, lexer =>
      let cursor := lexer.cursor.skipComment
      match cursor.lineBreak? with
      | some (_, next) =>
          skipToToken fuel
            { lexer with cursor := next, keyAllowed := lexer.keyAllowed || lexer.inBlock }
      | none => { lexer with cursor := cursor }

/-- Characters of the addresses that tags may hold. -/
def isAddressChar (c : Char) : Bool :=
  isNameChar c || "-;/?:@&=+$,_.!~*'()[]".toList.contains c

/-- Reads escaped bytes; they must encode characters. -/
def readBytes : Nat -> Cursor -> List UInt8 -> Except Fault (List Char × Cursor)
  | 0, _, _ => .error .malformed
  | fuel + 1, cursor, bytes =>
      if cursor.peek == some '%' then
        match readHex? 2 cursor.step.rest with
        | some byte => readBytes fuel (cursor.skip 3) (bytes ++ [byte.toUInt8])
        | none => .error .malformed
      else match String.fromUTF8? ⟨bytes.toArray⟩ with
        | some s => .ok (s.toList, cursor)
        | none => .error .malformed

/-- Reads the characters of an address. -/
def readAddress : Nat -> Cursor -> List Char -> Except Fault (String × Cursor)
  | 0, _, _ => .error .malformed
  | fuel + 1, cursor, done =>
      match cursor.peek with
      | some '%' => do
          let (more, cursor) <- readBytes (cursor.rest.length + 1) cursor []
          readAddress fuel cursor (done ++ more)
      | _ =>
          let (more, next) := cursor.span isAddressChar
          if more.isEmpty then
            if done.isEmpty then .error .malformed else .ok (String.ofList done, cursor)
          else readAddress fuel next (done ++ more)

/-- An address that may not be empty. -/
def address (cursor : Cursor) : Except Fault (String × Cursor) :=
  readAddress (cursor.rest.length + 1) cursor []

/-- Reads the handle of a tag: one exclamation mark, or a name between two. -/
def readHandle (cursor : Cursor) : Except Fault (String × Cursor) :=
  if cursor.peek != some '!' then .error .malformed
  else
    let (name, next) := cursor.step.span isNameChar
    if next.peek == some '!' then .ok ("!" ++ String.ofList name ++ "!", next.step)
    else if name.isEmpty && next.peek == some ' ' then .ok ("!", next)
    else .error .malformed

def readTag (cursor : Cursor) : Except Fault (Token × Cursor) := do
  let (token, cursor) <-
    match cursor.peekAt 1 with
    | some '<' => do
        let (rest, cursor) <- address (cursor.skip 2)
        if cursor.peek == some '>' then pure (Token.tag none rest, cursor.step)
        else throw .malformed
    | next =>
        if endsWord next then pure (Token.tag none "!", cursor.step)
        else
          let word := cursor.step.rest.takeWhile fun c => !endsEntry (some c)
          if word.contains '!' then do
            let (handle, cursor) <- readHandle cursor
            let (rest, cursor) <- address cursor
            pure (Token.tag (some handle) rest, cursor)
          else do
            let (rest, cursor) <- address cursor.step
            pure (Token.tag (some "!") rest, cursor)
  if endsEntry cursor.peek then pure (token, cursor) else throw .malformed

/-- Reads the number of a version. -/
def readNumber (cursor : Cursor) : Except Fault (Nat × Cursor) :=
  let (digits, next) := cursor.span fun c => (Text.plainDigit? c).isSome
  if digits.isEmpty then .error .malformed
  else .ok (Text.ofDigits (digits.filterMap Text.plainDigit?), next)

/-- Reads what a directive says. -/
def readDirectiveBody (name : String) (cursor : Cursor) : Except Fault (Token × Cursor) := do
  let atStart := cursor.skipWhile (· == ' ')
  if name == "YAML" then
    let (major, cursor) <- readNumber atStart
    if cursor.peek != some '.' then throw .malformed
    let (_, cursor) <- readNumber cursor.step
    if !endsEntry cursor.peek then throw .malformed
    pure (.version major, cursor)
  else if name == "TAG" then
    let (handle, cursor) <- readHandle atStart
    if cursor.peek != some ' ' then throw .malformed
    let (meaning, cursor) <- address (cursor.skipWhile (· == ' '))
    if !endsEntry cursor.peek then throw .malformed
    pure (.tagHandle handle meaning, cursor)
  else pure (.directive, cursor.skipLine)

def readDirective (cursor : Cursor) : Except Fault (Token × Cursor) := do
  let (name, cursor) := cursor.step.span isNameChar
  if name.isEmpty || !endsEntry cursor.peek then throw .malformed
  let (token, cursor) <- readDirectiveBody (String.ofList name) cursor
  let cursor := cursor.skipComment
  if !endsLine cursor.peek then throw .malformed
  pure (token, cursor.skipBreak)

/-- Reads the name after an anchor or alias mark. -/
def readName (cursor : Cursor) : Except Fault (String × Cursor) :=
  let (name, next) := cursor.step.span isNameChar
  let ends := endsWord next.peek ||
    ((next.peek.map fun c => "?:,]\x7d%@\x60".toList.contains c).getD false)
  if name.isEmpty || !ends then .error .malformed else .ok (String.ofList name, next)

/-- A token that ends the document or its directives. -/
def takeMark (lexer : Lexer) (token : Token) : Except Fault Lexer := do
  let lexer <- (lexer.unwind (-1)).dropSpot
  pure ((lexer.allowKey false).emit token (lexer.cursor.skip 3))

/-- An opening bracket. -/
def takeOpen (lexer : Lexer) (token : Token) : Except Fault Lexer := do
  let lexer <- lexer.saveSpot
  pure (({ lexer with depth := lexer.depth + 1 }.allowKey true).emit token lexer.cursor.step)

/-- A closing bracket. -/
def takeClose (lexer : Lexer) (token : Token) : Except Fault Lexer := do
  let lexer <- lexer.dropSpot
  if lexer.depth == 0 then throw .malformed
  pure (({ lexer with depth := lexer.depth - 1 }.allowKey false).emit token lexer.cursor.step)

/-- A token that opens a block of its own kind, if it stands deeper than the one around. -/
def takeBlockMark (lexer : Lexer) (opening token : Token) (keyAfter : Bool) :
    Except Fault Lexer := do
  if lexer.inBlock && !lexer.keyAllowed then throw .malformed
  let column := lexer.cursor.column
  let lexer :=
    if lexer.inBlock then lexer.openBlock column lexer.tokens.size opening else lexer
  let lexer <- (lexer.allowKey keyAfter).dropSpot
  pure (lexer.emit token lexer.cursor.step)

/-- A colon: it makes a key of what began at the spot of this depth. -/
def takeValue (lexer : Lexer) : Except Fault Lexer :=
  match lexer.spots.find? fun spot => spot.depth == lexer.depth with
  | some spot =>
      let lexer := { lexer with
        spots := lexer.spots.filter fun other => other.depth != lexer.depth
        tokens := insertAt lexer.tokens spot.position #[.key] }
      let lexer :=
        if lexer.inBlock then lexer.openBlock spot.column spot.position .openMapping else lexer
      .ok ((lexer.allowKey false).emit .value lexer.cursor.step)
  | none => takeBlockMark lexer .openMapping .value lexer.inBlock

/-- A token with which a key may begin and after which none may. -/
def takeNode (lexer : Lexer) (read : Cursor -> Except Fault (Token × Cursor)) :
    Except Fault Lexer := do
  let lexer <- lexer.saveSpot
  let (token, cursor) <- read lexer.cursor
  pure ((lexer.allowKey false).emit token cursor)

/-- A plain text. -/
def takePlain (lexer : Lexer) : Except Fault Lexer := do
  let lexer <- lexer.saveSpot
  let text := readPlain (!lexer.inBlock) lexer.indent lexer.cursor
  pure ((lexer.allowKey text.crossed).emit (.scalar true (String.ofList text.done)) text.cursor)

def takeBlockText (lexer : Lexer) (fold : Bool) : Except Fault Lexer := do
  let lexer <- (lexer.allowKey true).dropSpot
  let (text, cursor) <- readBlock fold lexer.indent lexer.cursor
  pure (lexer.emit (.scalar false text) cursor)

/-- Whether a plain text may begin with the character that comes next. -/
def startsPlain (lexer : Lexer) (c : Char) (next : Option Char) : Bool :=
  !(isGap c || isBreak c || "-?:,[]\x7b\x7d#&*!|>'\"%@\x60".toList.contains c) ||
    (!endsWord next && (c == '-' || (lexer.inBlock && (c == '?' || c == ':'))))

/-- Takes the token that begins with a character. -/
def takeToken (lexer : Lexer) (c : Char) : Except Fault Lexer :=
  let cursor := lexer.cursor
  let next := cursor.peekAt 1
  let atMargin := cursor.column == 0
  if c == '%' && atMargin then do
    let lexer <- (lexer.unwind (-1)).dropSpot
    let (token, cursor) <- readDirective cursor
    pure ((lexer.allowKey false).emit token cursor)
  else if c == '-' && atMargin && cursor.atMark '-' then lexer.takeMark .documentStart
  else if c == '.' && atMargin && cursor.atMark '.' then lexer.takeMark .documentEnd
  else if c == '[' then lexer.takeOpen .openList
  else if c == '\x7b' then lexer.takeOpen .openRecord
  else if c == ']' then lexer.takeClose .closeList
  else if c == '\x7d' then lexer.takeClose .closeRecord
  else if c == ',' then do
    let lexer <- (lexer.allowKey true).dropSpot
    pure (lexer.emit .comma cursor.step)
  else if c == '-' && endsWord next then lexer.takeBlockMark .openSequence .entry true
  else if c == '?' && (!lexer.inBlock || endsWord next) then
    lexer.takeBlockMark .openMapping .key lexer.inBlock
  else if c == ':' && (!lexer.inBlock || endsWord next) then lexer.takeValue
  else if c == '*' then
    lexer.takeNode fun cursor => (readName cursor).map fun read => (.alias_ read.1, read.2)
  else if c == '&' then
    lexer.takeNode fun cursor => (readName cursor).map fun read => (.anchor read.1, read.2)
  else if c == '!' then lexer.takeNode readTag
  else if c == '|' && lexer.inBlock then lexer.takeBlockText false
  else if c == '>' && lexer.inBlock then lexer.takeBlockText true
  else if c == '\'' || c == '"' then
    lexer.takeNode fun cursor =>
      (readQuoted c cursor).map fun read => (.scalar false read.1, read.2)
  else if lexer.startsPlain c next then lexer.takePlain
  else .error .malformed

/-- Takes tokens until the text ends. -/
def run : Nat -> Lexer -> Except Fault (Array Token)
  | 0, _ => .error .malformed
  | fuel + 1, lexer => do
      let lexer := skipToToken (lexer.cursor.rest.length + 1) lexer
      let lexer <- lexer.dropStale
      let lexer := lexer.unwind lexer.cursor.column
      match lexer.cursor.peek with
      | none => do
          let lexer <- (lexer.unwind (-1)).dropSpot
          pure lexer.tokens
      | some c => do
          let lexer <- lexer.takeToken c
          run fuel lexer

end Lexer

def ofText (text : List Char) : Except Fault (List Token) :=
  if text.all isAllowed then
    let start := Cursor.start text
    let cursor := if start.peek == some '\uFEFF' then start.step else start
    (Lexer.run (cursor.rest.length + 2) ⟨cursor, #[], [], 0, true, []⟩).map Array.toList
  else .error .malformed

end Token
end Yaml
end Triage
