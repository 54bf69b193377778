/-!
# Tokens

The words of a document: its marks, the starts and ends of its collections, and its scalars.  A
block collection has no closing mark of its own in the text; its end is a token all the same.
-/

namespace PoolPlanner
namespace Yaml

/-- How a scalar is written. -/
inductive ScalarStyle
  /-- Without quotes. -/
  | plain
  /-- In lines behind a bar. -/
  | literal
  /-- In quotes, or folded. -/
  | other
deriving DecidableEq, Repr

/-- A token of a document. -/
inductive Token
  /-- The version that a document is written in. -/
  | version (major minor : Nat)
  /-- What a tag handle stands for. -/
  | handle (name : List Char) (octets : List UInt8)
  | documentStart
  | documentEnd
  | blockSequenceStart
  | blockMappingStart
  | blockEnd
  | flowSequenceStart
  | flowSequenceEnd
  | flowMappingStart
  | flowMappingEnd
  /-- What an item of a block sequence follows. -/
  | blockEntry
  /-- What separates the parts of a flow collection. -/
  | flowEntry
  /-- What a key follows. -/
  | key
  /-- What the value of a key follows. -/
  | value
  | alias (name : String)
  | anchor (name : String)
  /-- A tag; its handle is empty if the tag is written in full. -/
  | tag (handle : List Char) (octets : List UInt8)
  | scalar (style : ScalarStyle) (text : String)
deriving DecidableEq, Repr

end Yaml
end PoolPlanner
