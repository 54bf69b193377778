import PoolPlanner.Yaml.Node
import PoolPlanner.Yaml.TokenSequence

/-!
# Reading documents

A text holds one document.  Its tokens are read from the left: every part of it is told by the token
that it starts with, and a part that is left out by a token that no part starts with.
-/

namespace PoolPlanner
namespace Yaml

/-- What the tag handles of a document stand for. -/
abbrev TagHandles : Type :=
  List (List Char × List UInt8)

def standardHandles : TagHandles :=
  [(['!'], ['!'.toUInt8]),
    (['!', '!'], "tag:yaml.org,2002:".toList.flatMap String.utf8EncodeChar)]

/-- The octets of a tag, if its handle is known. -/
def resolveTag? (handles : TagHandles) (handle : List Char) (octets : List UInt8) :
    Option (List UInt8) :=
  if handle.isEmpty then some octets
  else (handles.lookup handle).map fun meaning => meaning ++ octets

/-- What stands before a part: a name, a tag, or both. -/
structure Properties where
  anchor : Option String := none
  tag : Option (List UInt8) := none

namespace Properties

def isEmpty (properties : Properties) : Bool :=
  properties.anchor.isNone && properties.tag.isNone

def scalar (properties : Properties) (style : ScalarStyle) (text : String) : Scalar where
  style
  tag := properties.tag.getD []
  text

def mark (properties : Properties) (content : Option Scalar) (anchors : Anchors) : Anchors :=
  match properties.anchor with
  | some name => anchors.mark name content
  | none => anchors

/-- Read the properties of a part: at most one of each kind, in any order. -/
def read? (handles : TagHandles) : List Token → Option (Properties × List Token)
  | .anchor name :: .tag handle octets :: rest
  | .tag handle octets :: .anchor name :: rest =>
      (resolveTag? handles handle octets).map fun tag => (⟨some name, some tag⟩, rest)
  | .anchor name :: rest => some (⟨some name, none⟩, rest)
  | .tag handle octets :: rest =>
      (resolveTag? handles handle octets).map fun tag => (⟨none, some tag⟩, rest)
  | rest => some ({}, rest)

end Properties

inductive Standing
  /-- In a flow collection. -/
  | flow
  /-- In a block sequence, or in nothing. -/
  | block
  /-- In a block mapping, where the dashes of a sequence need not be indented. -/
  | entry
deriving DecidableEq

/-- A document that is read in part. -/
structure PartReading where
  /-- The tokens that are left. -/
  tokens : List Token
  anchors : Anchors := {}

namespace PartReading

def isBefore (reading : PartReading) (tokens : List Token) : Bool :=
  reading.tokens.head?.any tokens.contains

def next (reading : PartReading) : PartReading :=
  { reading with tokens := reading.tokens.drop 1 }

/-- Read a part, or a blank one if one of some tokens is next. -/
def orBlank? (reading : PartReading) (stops : List Token)
    (read? : PartReading → Option (Yaml × PartReading)) : Option (Yaml × PartReading) :=
  if reading.isBefore stops then some (blank, reading) else read? reading

/-- The tokens that no key and no value of a block mapping starts with. -/
def entryStops : List Token :=
  [.key, .value, .blockEnd]

mutual

def readNode? (handles : TagHandles) (standing : Standing) :
    (fuel : Nat) → PartReading → Option (Yaml × PartReading)
  | 0, _ => none
  | fuel + 1, reading =>
      match reading.tokens with
      | .alias name :: rest =>
          (reading.anchors.number? name).map fun number =>
            (.alias number, { reading with tokens := rest })
      | tokens =>
          match Properties.read? handles tokens with
          | none => none
          | some (properties, tokens) =>
              let anchored (content : Option Scalar) (tokens : List Token) : PartReading :=
                { tokens, anchors := properties.mark content reading.anchors }
              let left : Option (Yaml × PartReading) :=
                if properties.isEmpty then none
                else
                  let content := properties.scalar .plain ""
                  some (.scalar content, anchored (some content) tokens)
              match tokens with
              | .scalar style text :: rest =>
                  let content := properties.scalar style text
                  some (.scalar content, anchored (some content) rest)
              | .flowSequenceStart :: rest =>
                  (readFlowItems? handles true fuel (anchored none rest)).map fun read =>
                    (.sequence read.1, read.2)
              | .flowMappingStart :: rest =>
                  (readFlowEntries? handles true fuel (anchored none rest)).map fun read =>
                    (.mapping read.1, read.2)
              | .blockEntry :: _ =>
                  if standing = .entry then
                    (readBlockItems? handles false fuel (anchored none tokens)).map fun read =>
                      (.sequence read.1, read.2)
                  else left
              | .blockSequenceStart :: rest =>
                  if standing = .flow then left
                  else
                    (readBlockItems? handles true fuel (anchored none rest)).map fun read =>
                      (.sequence read.1, read.2)
              | .blockMappingStart :: rest =>
                  if standing = .flow then left
                  else
                    (readBlockEntries? handles fuel (anchored none rest)).map fun read =>
                      (.mapping read.1, read.2)
              | _ => left

def readBlockItems? (handles : TagHandles) (indented : Bool) :
    (fuel : Nat) → PartReading → Option (List Yaml × PartReading)
  | 0, _ => none
  | fuel + 1, reading =>
      if reading.isBefore [.blockEntry] then
        let stops : List Token := if indented then [.blockEntry, .blockEnd] else
          .blockEntry :: entryStops
        match reading.next.orBlank? stops fun reading =>
            readNode? handles .block fuel reading with
        | none => none
        | some (item, reading) =>
            (readBlockItems? handles indented fuel reading).map fun read =>
              (item :: read.1, read.2)
      else if !indented then some ([], reading)
      else if reading.isBefore [.blockEnd] then some ([], reading.next)
      else none

def readBlockEntries? (handles : TagHandles) :
    (fuel : Nat) → PartReading → Option (List (Yaml × Yaml) × PartReading)
  | 0, _ => none
  | fuel + 1, reading =>
      if reading.isBefore [.key] then
        match reading.next.orBlank? entryStops fun reading =>
            readNode? handles .entry fuel reading with
        | none => none
        | some (key, reading) =>
            let value :=
              if reading.isBefore [.value] then
                reading.next.orBlank? entryStops fun reading =>
                  readNode? handles .entry fuel reading
              else some (blank, reading)
            match value with
            | none => none
            | some (value, reading) =>
                (readBlockEntries? handles fuel reading).map fun read =>
                  ((key, value) :: read.1, read.2)
      else if reading.isBefore [.blockEnd] then some ([], reading.next)
      else none

/-- Read the items of a flow sequence; each but the first stands behind a comma.  An item with the
mark of a key is a mapping of one entry. -/
def readFlowItems? (handles : TagHandles) (first : Bool) :
    (fuel : Nat) → PartReading → Option (List Yaml × PartReading)
  | 0, _ => none
  | fuel + 1, reading =>
      if reading.isBefore [.flowSequenceEnd] then some ([], reading.next)
      else if !first && !reading.isBefore [.flowEntry] then none
      else
        let reading := if first then reading else reading.next
        if reading.isBefore [.flowSequenceEnd] then some ([], reading.next)
        else
          let item :=
            if reading.isBefore [.key] then
              readFlowPair? handles fuel reading.next
            else readNode? handles .flow fuel reading
          match item with
          | none => none
          | some (item, reading) =>
              (readFlowItems? handles false fuel reading).map fun read =>
                (item :: read.1, read.2)

/-- Read an entry that is an item of a flow sequence, behind the mark of its key.  A key that is
left out takes the token with it that stands in its place. -/
def readFlowPair? (handles : TagHandles) :
    (fuel : Nat) → PartReading → Option (Yaml × PartReading)
  | 0, _ => none
  | fuel + 1, reading =>
      let key :=
        if reading.isBefore [.value, .flowEntry, .flowSequenceEnd] then some (blank, reading.next)
        else readNode? handles .flow fuel reading
      match key with
      | none => none
      | some (key, reading) =>
          let value :=
            if reading.isBefore [.value] then
              reading.next.orBlank? [.flowEntry, .flowSequenceEnd] fun reading =>
                readNode? handles .flow fuel reading
            else some (blank, reading)
          value.map fun read => (.mapping [(key, read.1)], read.2)

/-- Read the entries of a flow mapping; each but the first stands behind a comma.  An entry without
the mark of a key has no value. -/
def readFlowEntries? (handles : TagHandles) (first : Bool) :
    (fuel : Nat) → PartReading → Option (List (Yaml × Yaml) × PartReading)
  | 0, _ => none
  | fuel + 1, reading =>
      if reading.isBefore [.flowMappingEnd] then some ([], reading.next)
      else if !first && !reading.isBefore [.flowEntry] then none
      else
        let reading := if first then reading else reading.next
        if reading.isBefore [.flowMappingEnd] then some ([], reading.next)
        else
          let marked := reading.isBefore [.key]
          let key :=
            if marked then
              reading.next.orBlank? [.value, .flowEntry, .flowMappingEnd] fun reading =>
                readNode? handles .flow fuel reading
            else readNode? handles .flow fuel reading
          match key with
          | none => none
          | some (key, reading) =>
              let value :=
                if marked && reading.isBefore [.value] then
                  reading.next.orBlank? [.flowEntry, .flowMappingEnd] fun reading =>
                    readNode? handles .flow fuel reading
                else some (blank, reading)
              match value with
              | none => none
              | some (value, reading) =>
                  (readFlowEntries? handles false fuel reading).map fun read =>
                    ((key, value) :: read.1, read.2)

end

end PartReading

/-- Read the directives in front of a document: one version at most, which has to be 1.1 or 1.2, and
each tag handle once. -/
def readDirectives? (versioned : Bool) (handles : TagHandles) :
    List Token → Option (TagHandles × List Token)
  | .version major minor :: rest =>
      if versioned || major ≠ 1 || (minor ≠ 1 && minor ≠ 2) then none
      else readDirectives? true handles rest
  | .handle name octets :: rest =>
      if (handles.lookup name).isSome then none
      else readDirectives? versioned ((name, octets) :: handles) rest
  | rest => some (handles, rest)

def Token.isBoundary : Token → Bool
  | .version _ _ | .handle _ _ | .documentStart | .documentEnd => true
  | _ => false

namespace Document

/-- The document that tokens spell.  What follows directives has to be marked as the start of the
document, and may then be nothing at all. -/
def ofTokens? (tokens : List Token) : Option Document := do
  let (handles, content) ← readDirectives? false [] tokens
  let handles := handles ++ standardHandles
  let reading : PartReading := { tokens := content }
  let readRoot (reading : PartReading) : Option (Yaml × PartReading) :=
    PartReading.readNode? handles .block (4 * tokens.length + 4) reading
  let (root, reading) ←
    if tokens.isEmpty then some (blank, reading)
    else if reading.isBefore [.documentStart] then
      if reading.next.tokens.head?.all Token.isBoundary then some (blank, reading.next)
      else readRoot reading.next
    else if content.length < tokens.length then none
    else readRoot reading
  if reading.tokens.all fun token => token = .documentEnd then
    pure { root, anchors := reading.anchors }
  else none

end Document

/-- Whether a character may stand in a document: no control character but tabs and line ends. -/
def isDocumentChar (character : Char) : Bool :=
  let code := character.toNat
  ['\t', '\n', '\r', '\u0085'].contains character || (0x20 ≤ code && code ≤ 0x7E) ||
    (0xA0 ≤ code && code ≤ 0xFFFD) || 0x10000 ≤ code

/-- The document that a text holds; none if the text has a fault. -/
def Document.ofText? (text : String) : Option Document :=
  if text.toList.all isDocumentChar then
    (Token.sequence? (layOut 0 0 0 text.toList)).bind Document.ofTokens?
  else
    none

end Yaml
end PoolPlanner
