/-!
# Text in its places

A YAML text as characters that know where they stand.  Every way to write a newline counts as one
newline; the line and the paragraph separator end a line too and stay what they are.  Blanks and
line ends between two words of a scalar are read as one gap.
-/

namespace PoolPlanner
namespace Yaml

structure Placed where
  character : Char
  line : Nat
  column : Nat
  /-- How many characters stand before it. -/
  offset : Nat

def isLineEnd (character : Char) : Bool :=
  character = '\n' || character = '\r' || character = '\u0085' || character = '\u2028' ||
    character = '\u2029'

/-- A line end without the choice between the ways to write a newline. -/
def unifiedLineEnd (character : Char) : Char :=
  if character = '\r' || character = '\u0085' then '\n' else character

/-- The characters of a text in their places, from a line, a column and an offset on. -/
def layOut (line column offset : Nat) : List Char → List Placed
  | [] => []
  | '\r' :: '\n' :: rest =>
      ⟨'\n', line, column, offset⟩ :: layOut (line + 1) 0 (offset + 2) rest
  | first :: rest =>
      if isLineEnd first then
        ⟨unifiedLineEnd first, line, column, offset⟩ :: layOut (line + 1) 0 (offset + 1) rest
      else
        ⟨first, line, column, offset⟩ :: layOut line (column + 1) (offset + 1) rest

def isSpacing (character : Char) : Bool :=
  character = ' ' || character = '\t'

def isGapChar (character : Char) : Bool :=
  isSpacing character || isLineEnd character

def next? (text : List Placed) : Option Char :=
  text.head?.map Placed.character

/-- Whether a text ends or goes on with a gap. -/
def isWordEnd (text : List Placed) : Bool :=
  (next? text).all isGapChar

/-- Whether a text ends or goes on in a new line. -/
def isAtLineEnd (text : List Placed) : Bool :=
  (next? text).all isLineEnd

def columnOf (text : List Placed) : Nat :=
  (text.head?.map Placed.column).getD 0

/-- Whether a text starts with a mark, as a word of its own at the start of a line. -/
def startsWithMark (mark : List Char) (text : List Placed) : Bool :=
  columnOf text = 0 && (text.take mark.length).map Placed.character = mark &&
    isWordEnd (text.drop mark.length)

def isDocumentStart (text : List Placed) : Bool :=
  startsWithMark ['-', '-', '-'] text

def isDocumentEnd (text : List Placed) : Bool :=
  startsWithMark ['.', '.', '.'] text

/-- Whether a document starts or ends here. -/
def isDocumentMark (text : List Placed) : Bool :=
  isDocumentStart text || isDocumentEnd text

def skipSpacing (text : List Placed) : List Placed :=
  text.dropWhile fun placed => isSpacing placed.character

def skipLine (text : List Placed) : List Placed :=
  text.dropWhile fun placed => !isLineEnd placed.character

/-- The line behind what has to stand on a line of its own: blanks and a comment may follow, and
nothing else. -/
def skipLineRest? (text : List Placed) : Option (List Placed) :=
  let behind := skipSpacing text
  let behind := if next? behind = some '#' then skipLine behind else behind
  if isAtLineEnd behind then some (behind.drop 1) else none

/-- What stands between two words of a scalar. -/
structure Gap where
  /-- The spaces and tabs, if there is no line end among them. -/
  spacing : List Char := []
  /-- The line ends. -/
  lineEnds : List Char := []
  /-- The text behind the gap. -/
  rest : List Placed

/-- Read a gap, which may be empty; `broken` says whether a line end stands before it.  Behind a
line end a tab left of the column `indent` is a fault. -/
def Gap.read? (indent : Nat) (broken : Bool) : List Placed → Option Gap
  | [] => some { rest := [] }
  | first :: rest =>
      if isLineEnd first.character then
        (Gap.read? indent true rest).map fun gap =>
          { gap with lineEnds := first.character :: gap.lineEnds }
      else if !isSpacing first.character then
        some { rest := first :: rest }
      else if broken then
        if first.character = '\t' && first.column < indent then none
        else Gap.read? indent true rest
      else
        (Gap.read? indent false rest).map fun gap =>
          if gap.lineEnds.isEmpty then { gap with spacing := first.character :: gap.spacing }
          else gap

/-- Line ends folded: one newline becomes a space, and of several the first is dropped. -/
def folded : List Char → List Char
  | ['\n'] => [' ']
  | '\n' :: further => further
  | lineEnds => lineEnds

def Gap.text (gap : Gap) : List Char :=
  if gap.lineEnds.isEmpty then gap.spacing else folded gap.lineEnds

end Yaml
end PoolPlanner
