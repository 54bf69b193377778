import PoolPlanner.Yaml.BlockScalar
import PoolPlanner.Yaml.FlowScalar
import PoolPlanner.Yaml.Property

/-!
# The tokens of a text

A text is read token by token.  A key without a mark of its own is only known by the colon behind
it, so every place where one may have started is kept until the line ends, and its mark is put in
front of it afterwards.  Outside flow collections the columns open and close block collections.
-/

namespace PoolPlanner
namespace Yaml

/-- A place where a key may have started without a mark of its own. -/
structure PossibleKey where
  /-- How many tokens stand before it. -/
  position : Nat
  /-- Whether nothing but a key can stand there. -/
  required : Bool
  place : Placed

/-- Whether a key that started at a place would be too long here: keys keep to their line and have
at most 1024 characters. -/
def PossibleKey.isPast (key : PossibleKey) (here : Placed) : Bool :=
  key.place.line < here.line || key.place.offset + 1024 < here.offset

/-- A text that is read up to a token. -/
structure TokenReading where
  /-- The text that is left. -/
  text : List Placed
  /-- The tokens before it, the last one first. -/
  tokens : List Token := []
  /-- The columns of the open block collections, the innermost first. -/
  columns : List Nat := []
  /-- Where a key may have started in the innermost open flow collection, or outside of them. -/
  possibleKey : Option PossibleKey := none
  /-- The same for what is around each of the open flow collections, the innermost first. -/
  outerKeys : List (Option PossibleKey) := []
  /-- Whether a key may start here without a mark. -/
  keyAllowed : Bool := true

namespace TokenReading

def inFlow (reading : TokenReading) : Bool :=
  !reading.outerKeys.isEmpty

def push (reading : TokenReading) (token : Token) (rest : List Placed) (keyAllowed : Bool) :
    TokenReading :=
  { reading with text := rest, tokens := token :: reading.tokens, keyAllowed }

/-- Forget where a key may have started, unless one has to be there. -/
def dropKey? (reading : TokenReading) : Option TokenReading :=
  if reading.possibleKey.any PossibleKey.required then none
  else some { reading with possibleKey := none }

/-- Keep in mind that a key may start here.  One has to be where the entries of a block mapping
start. -/
def noteKey? (reading : TokenReading) (here : Placed) : Option TokenReading :=
  if !reading.keyAllowed then some reading
  else
    reading.dropKey?.map fun reading =>
      let required := !reading.inFlow && reading.columns.head? = some here.column
      { reading with possibleKey := some ⟨reading.tokens.length, required, here⟩ }

/-- A key that is still possible here; none at all if one had to be there and is not. -/
def stillPossible? (here : Placed) : Option PossibleKey → Option (Option PossibleKey)
  | none => some none
  | some key =>
      if !key.isPast here then some (some key)
      else if key.required then none
      else some none

def dropPastKeys? (reading : TokenReading) (here : Placed) : Option TokenReading := do
  let possibleKey ← stillPossible? here reading.possibleKey
  let outerKeys ← reading.outerKeys.mapM (stillPossible? here)
  pure { reading with possibleKey, outerKeys }

def isDeeper (reading : TokenReading) (column : Nat) : Bool :=
  reading.columns.head?.all fun innermost => innermost < column

/-- Open a block collection, unless one is open at this column; a flow collection holds none. -/
def openBlock (reading : TokenReading) (column : Nat) (start : Token) : TokenReading :=
  if reading.inFlow || !reading.isDeeper column then reading
  else
    { reading with tokens := start :: reading.tokens, columns := column :: reading.columns }

/-- Close the innermost block collections for as long as their columns satisfy a condition. -/
def closeBlocks (reading : TokenReading) (isOver : Nat → Bool) : TokenReading :=
  if reading.inFlow then reading
  else
    let closed := reading.columns.takeWhile isOver
    { reading with
      tokens := List.replicate closed.length Token.blockEnd ++ reading.tokens
      columns := reading.columns.drop closed.length }

/-- Put the mark of a key, and of the block mapping that it may open, before the token that it
starts with. -/
def insertKey (reading : TokenReading) (key : PossibleKey) : TokenReading :=
  let column := key.place.column
  let behind := reading.tokens.take (reading.tokens.length - key.position)
  let before := reading.tokens.drop (reading.tokens.length - key.position)
  let opens := !reading.inFlow && reading.isDeeper column
  { reading with
    tokens := behind ++ Token.key :: (if opens then [Token.blockMappingStart] else []) ++ before
    columns := if opens then column :: reading.columns else reading.columns
    possibleKey := none }

/-- Pass over blanks, comments and line ends.  A tab is a blank where no key may start, and a byte
order mark at the start of a line. -/
def skipBlanks (flow : Bool) (inComment keyAllowed : Bool) : List Placed → Bool × List Placed
  | [] => (keyAllowed, [])
  | first :: rest =>
      if isLineEnd first.character then skipBlanks flow false (keyAllowed || !flow) rest
      else if inComment then skipBlanks flow true keyAllowed rest
      else if first.character = ' ' || (first.character = '\t' && (flow || !keyAllowed)) ||
          (first.character = '\ufeff' && first.column = 0) then
        skipBlanks flow false keyAllowed rest
      else if first.character = '#' then skipBlanks flow true keyAllowed rest
      else (keyAllowed, first :: rest)

/-- Read what stands between documents or in front of one; every block collection ends there. -/
def readBoundary? (reading : TokenReading) (token : Token) (rest : List Placed) :
    Option TokenReading :=
  (reading.closeBlocks fun _ => true).dropKey?.map fun reading => reading.push token rest false

def openFlow? (reading : TokenReading) (start : Token) (here : Placed) (rest : List Placed) :
    Option TokenReading :=
  (reading.noteKey? here).map fun reading =>
    { reading.push start rest true with
      possibleKey := none
      outerKeys := reading.possibleKey :: reading.outerKeys }

def closeFlow? (reading : TokenReading) (finish : Token) (rest : List Placed) :
    Option TokenReading :=
  reading.dropKey?.map fun reading =>
    { reading.push finish rest false with
      possibleKey := reading.outerKeys.head?.join
      outerKeys := reading.outerKeys.drop 1 }

def readComma? (reading : TokenReading) (rest : List Placed) : Option TokenReading :=
  reading.dropKey?.map fun reading => reading.push .flowEntry rest true

def readDash? (reading : TokenReading) (here : Placed) (rest : List Placed) :
    Option TokenReading :=
  if !reading.inFlow && !reading.keyAllowed then none
  else
    (reading.openBlock here.column .blockSequenceStart).dropKey?.map fun reading =>
      reading.push .blockEntry rest true

def readQuestionMark? (reading : TokenReading) (here : Placed) (rest : List Placed) :
    Option TokenReading :=
  if !reading.inFlow && !reading.keyAllowed then none
  else
    (reading.openBlock here.column .blockMappingStart).dropKey?.map fun reading =>
      reading.push .key rest (!reading.inFlow)

def readColon? (reading : TokenReading) (here : Placed) (rest : List Placed) :
    Option TokenReading :=
  match reading.possibleKey with
  | some key => some ((reading.insertKey key).push .value rest false)
  | none =>
      if !reading.inFlow && !reading.keyAllowed then none
      else
        some ((reading.openBlock here.column .blockMappingStart).push .value rest
          (!reading.inFlow))

def readWord? (reading : TokenReading) (here : Placed) (word : Option (Token × List Placed)) :
    Option TokenReading := do
  let reading ← reading.noteKey? here
  let (token, rest) ← word
  pure (reading.push token rest false)

def readQuotedScalar? (reading : TokenReading) (quote : Quote) (here : Placed)
    (rest : List Placed) : Option TokenReading :=
  reading.readWord? here
    ((readQuoted? quote (rest.length + 1) rest).map fun read =>
      (.scalar .other (String.ofList read.1), read.2))

def readLineScalar? (reading : TokenReading) (isFolded : Bool) (rest : List Placed) :
    Option TokenReading := do
  if reading.inFlow then none
  let reading ← reading.dropKey?
  let (text, rest) ← readBlockScalar? isFolded reading.columns.head? (rest.length + 1) rest
  let style := if isFolded then ScalarStyle.other else .literal
  pure (reading.push (.scalar style (String.ofList text)) rest true)

/-- Read a plain scalar.  A key may follow one that ends with its line. -/
def readPlainScalar? (reading : TokenReading) (here : Placed) (rest : List Placed) :
    Option TokenReading := do
  let text := here :: rest
  let reading ← reading.noteKey? here
  let indent := (reading.columns.head?.map fun column => column + 1).getD 0
  let plain ← readPlain? reading.inFlow indent (text.length + 1) { rest := text }
  pure (reading.push (.scalar .plain (String.ofList plain.text)) plain.rest plain.broken)

/-- Whether a dash, a question mark or a colon starts a word here and is no mark. -/
def startsWord (reading : TokenReading) (here : Placed) (rest : List Placed) : Bool :=
  match here.character with
  | '-' => !isWordEnd rest
  | '?' | ':' => !reading.inFlow && !isWordEnd rest
  | _ => false

/-- Read a token that is told by its first character. -/
def readMarked? (reading : TokenReading) (here : Placed) (rest : List Placed) :
    Option TokenReading :=
  match here.character with
  | '[' => reading.openFlow? .flowSequenceStart here rest
  | ']' => reading.closeFlow? .flowSequenceEnd rest
  | '\x7b' => reading.openFlow? .flowMappingStart here rest
  | '\x7d' => reading.closeFlow? .flowMappingEnd rest
  | ',' => reading.readComma? rest
  | '-' => reading.readDash? here rest
  | '?' => reading.readQuestionMark? here rest
  | ':' => reading.readColon? here rest
  | '*' =>
      reading.readWord? here
        ((readAnchorName? rest).map fun read => (.alias read.1, read.2))
  | '&' =>
      reading.readWord? here
        ((readAnchorName? rest).map fun read => (.anchor read.1, read.2))
  | '!' => reading.readWord? here (readTag? reading.inFlow (here :: rest))
  | '|' => reading.readLineScalar? false rest
  | '>' => reading.readLineScalar? true rest
  | '\'' => reading.readQuotedScalar? .single here rest
  | '"' => reading.readQuotedScalar? .double here rest
  | '\t' | '#' | '%' | '@' | '\x60' => none
  | _ => reading.readPlainScalar? here rest

def readToken? (reading : TokenReading) (here : Placed) (rest : List Placed) :
    Option TokenReading := do
  let text := here :: rest
  let reading ← reading.dropPastKeys? here
  let reading := reading.closeBlocks fun column => here.column < column
  if here.column = 0 ∧ here.character = '%' then
    let (token, rest) ← readDirective? rest
    reading.readBoundary? token rest
  else if isDocumentStart text then reading.readBoundary? .documentStart (text.drop 3)
  else if isDocumentEnd text then reading.readBoundary? .documentEnd (text.drop 3)
  else if reading.startsWord here rest then reading.readPlainScalar? here rest
  else reading.readMarked? here rest

def readAll? : (fuel : Nat) → TokenReading → Option (List Token)
  | 0, _ => none
  | fuel + 1, reading =>
      let (keyAllowed, text) := skipBlanks reading.inFlow false reading.keyAllowed reading.text
      let reading := { reading with text, keyAllowed }
      match text with
      | [] => (reading.closeBlocks fun _ => true).dropKey?.map fun reading => reading.tokens.reverse
      | here :: rest =>
          match reading.readToken? here rest with
          | none => none
          | some reading => readAll? fuel reading

end TokenReading

/-- The tokens of a text; none if it has a fault. -/
def Token.sequence? (text : List Placed) : Option (List Token) :=
  TokenReading.readAll? (text.length + 1) { text }

end Yaml
end PoolPlanner
