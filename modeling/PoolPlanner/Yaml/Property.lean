import PoolPlanner.Json.Reader
import PoolPlanner.Yaml.Placed
import PoolPlanner.Yaml.Token

/-!
# Properties and directives

The names that a document gives to its parts, the tags that say what a part is, and the directives
in front of it.  A tag is read as octets, since an escape in it spells an octet and not a character.
-/

namespace PoolPlanner
namespace Yaml

def isNameChar (character : Char) : Bool :=
  character.isAlphanum || character = '_' || character = '-'

/-- The name at the front of a text, which may be empty, and the text behind it. -/
def readName (text : List Placed) : List Char × List Placed :=
  ((text.takeWhile fun placed => isNameChar placed.character).map Placed.character,
    text.dropWhile fun placed => isNameChar placed.character)

/-- Whether the name of an anchor may end before a text. -/
def endsAnchor (text : List Placed) : Bool :=
  isWordEnd text ||
    (next? text).any fun character =>
      ['?', ':', ',', ']', '\x7d', '%', '@', '\x60'].contains character

def readAnchorName? (text : List Placed) : Option (String × List Placed) :=
  let (name, rest) := readName text
  if name.isEmpty || !endsAnchor rest then none else some (String.ofList name, rest)

def readOctet? : List Placed → Option (UInt8 × List Placed)
  | mark :: high :: low :: rest => do
      let high ← Json.hexValue? high.character
      let low ← Json.hexValue? low.character
      if mark.character = '%' then pure (UInt8.ofNat (high * 16 + low), rest) else none
  | _ => none

/-- How many octets follow the first octet of a character. -/
def followingOctets? (first : UInt8) : Option Nat :=
  if first < 0x80 then some 0
  else if first < 0xC0 then none
  else if first < 0xE0 then some 1
  else if first < 0xF0 then some 2
  else if first < 0xF8 then some 3
  else none

def readFollowing? : (count : Nat) → List Placed → Option (List UInt8 × List Placed)
  | 0, text => some ([], text)
  | count + 1, text => do
      let (octet, rest) ← readOctet? text
      if octet < 0x80 ∨ 0xC0 ≤ octet then none
      let (following, rest) ← readFollowing? count rest
      pure (octet :: following, rest)

def readEscapedOctets? (text : List Placed) : Option (List UInt8 × List Placed) := do
  let (first, rest) ← readOctet? text
  let count ← followingOctets? first
  let (following, rest) ← readFollowing? count rest
  pure (first :: following, rest)

/-- Whether a character may stand in a tag; commas and square brackets only in one that is
bracketed. -/
def isTagChar (bracketed : Bool) (character : Char) : Bool :=
  isNameChar character ||
    [';', '/', '?', ':', '@', '&', '=', '+', '$', '.', '%', '!', '~', '*', '\'', '(', ')'].contains
      character ||
    (bracketed && [',', '[', ']'].contains character)

def readTagOctets? (bracketed : Bool) :
    (fuel : Nat) → List Placed → Option (List UInt8 × List Placed)
  | 0, _ => none
  | _, [] => some ([], [])
  | fuel + 1, first :: rest =>
      if !isTagChar bracketed first.character then some ([], first :: rest)
      else do
        let (octets, rest) ←
          if first.character = '%' then readEscapedOctets? (first :: rest)
          else some (String.utf8EncodeChar first.character, rest)
        let (further, rest) ← readTagOctets? bracketed fuel rest
        pure (octets ++ further, rest)

def beforeZero (octets : List UInt8) : List UInt8 :=
  octets.takeWhile fun octet => octet ≠ 0

/-- Read a tag handle: an exclamation mark, or a name between two of them.  A name without the
second mark is read too, for it can be the start of a tag. -/
def readHandle? (text : List Placed) : Option (List Char × List Placed) :=
  if next? text ≠ some '!' then none
  else
    let (name, rest) := readName (text.drop 1)
    if next? rest = some '!' then some ('!' :: name ++ ['!'], rest.drop 1)
    else some ('!' :: name, rest)

def isClosedHandle (handle : List Char) : Bool :=
  1 < handle.length && handle.getLast? = some '!'

/-- Read a tag that is written in full, behind the mark and the bracket that open it. -/
def readFullTag? (text : List Placed) : Option (Token × List Placed) := do
  let (octets, rest) ← readTagOctets? true (text.length + 1) text
  if octets.isEmpty ∨ next? rest ≠ some '>' then none
  else pure (.tag [] (beforeZero octets), rest.drop 1)

/-- Read a tag behind its handle.  A lone exclamation mark is a tag in full. -/
def readShortTag? (text : List Placed) : Option (Token × List Placed) := do
  let (handle, rest) ← readHandle? text
  let (octets, rest) ← readTagOctets? false (rest.length + 1) rest
  if isClosedHandle handle then
    if octets.isEmpty then none else pure (.tag handle (beforeZero octets), rest)
  else
    let octets := beforeZero ((handle.drop 1).flatMap String.utf8EncodeChar ++ octets)
    pure (if octets.isEmpty then .tag [] ['!'.toUInt8] else .tag ['!'] octets, rest)

def readTag? (flow : Bool) (text : List Placed) : Option (Token × List Placed) := do
  let (token, rest) ←
    if next? (text.drop 1) = some '<' then readFullTag? (text.drop 2) else readShortTag? text
  if isWordEnd rest || (flow && next? rest = some ',') then pure (token, rest) else none

def readVersionPart? (text : List Placed) : Option (Nat × List Placed) :=
  let digits := (text.takeWhile fun placed => placed.character.isDigit).map Placed.character
  if digits.isEmpty || 9 < digits.length then none
  else
    some (digits.foldl (fun value digit => value * 10 + (digit.toNat - '0'.toNat)) 0,
      text.drop digits.length)

def readVersion? (text : List Placed) : Option (Token × List Placed) := do
  let (major, rest) ← readVersionPart? (skipSpacing text)
  if next? rest ≠ some '.' then none
  let (minor, rest) ← readVersionPart? (rest.drop 1)
  pure (.version major minor, rest)

/-- Read a handle and what it stands for, behind the name of their directive. -/
def readHandleMeaning? (text : List Placed) : Option (Token × List Placed) := do
  let (handle, rest) ← readHandle? (skipSpacing text)
  if handle ≠ ['!'] ∧ !isClosedHandle handle then none
  if !(next? rest).any isSpacing then none
  let (octets, rest) ← readTagOctets? true (rest.length + 1) (skipSpacing rest)
  if octets.isEmpty ∨ !isWordEnd rest then none
  pure (.handle handle (beforeZero octets), rest)

/-- Read a directive behind its percent sign, with the line that it stands on. -/
def readDirective? (text : List Placed) : Option (Token × List Placed) := do
  let (name, rest) := readName text
  if !isWordEnd rest then none
  let (token, rest) ←
    if name = ['Y', 'A', 'M', 'L'] then readVersion? rest
    else if name = ['T', 'A', 'G'] then readHandleMeaning? rest
    else none
  let rest ← skipLineRest? rest
  pure (token, rest)

end Yaml
end PoolPlanner
