import PoolPlanner.Yaml.Placed

/-!
# Block scalars

Scalars that are told by their indentation: the first line that is not empty sets it, unless a digit
behind the bar does.  In a folded scalar a newline between two lines that start without a blank
becomes a space.
-/

namespace PoolPlanner
namespace Yaml

inductive Chomping
  | strip
  | clip
  | keep
deriving DecidableEq

/-- What the marks behind the bar of a block scalar say. -/
structure BlockHeader where
  chomping : Chomping := .clip
  /-- By how much the scalar is indented further than what it stands in. -/
  indentation : Option Nat := none

def chomping? (text : List Placed) : Option Chomping :=
  match next? text with
  | some '+' => some .keep
  | some '-' => some .strip
  | _ => none

def readIndentation? (text : List Placed) : Option (Option Nat × List Placed) :=
  match next? text with
  | some character =>
      if !character.isDigit then some (none, text)
      else if character = '0' then none
      else some (some (character.toNat - '0'.toNat), text.drop 1)
  | none => some (none, text)

/-- Read the marks behind the bar: at most one of each kind, in any order. -/
def readBlockHeader? (text : List Placed) : Option (BlockHeader × List Placed) :=
  match chomping? text with
  | some chomping =>
      (readIndentation? (text.drop 1)).map fun read =>
        ({ chomping, indentation := read.1 }, read.2)
  | none =>
      match readIndentation? text with
      | none => none
      | some (none, rest) => some ({}, rest)
      | some (some indentation, rest) =>
          match chomping? rest with
          | some chomping => some ({ chomping, indentation := some indentation }, rest.drop 1)
          | none => some ({ indentation := some indentation }, rest)

/-- The empty lines before a line, and its indentation. -/
structure LineLead where
  lineEnds : List Char
  /-- The largest column that was reached. -/
  deepest : Nat
  rest : List Placed

/-- Read empty lines and the indentation behind them, up to the column `indent` or, if that is zero,
up to any column.  A tab in the indentation is a fault. -/
def readLineLead? (indent : Nat) : (deepest : Nat) → List Placed → Option LineLead
  | deepest, [] => some ⟨[], deepest, []⟩
  | deepest, first :: rest =>
      let inside := indent = 0 || first.column < indent
      if inside && first.character = ' ' then readLineLead? indent deepest rest
      else if inside && first.character = '\t' then none
      else
        let deepest := max deepest first.column
        if isLineEnd first.character then
          (readLineLead? indent deepest rest).map fun lead =>
            { lead with lineEnds := first.character :: lead.lineEnds }
        else
          some ⟨[], deepest, first :: rest⟩

structure BlockText where
  text : List Char
  /-- What ends the last line. -/
  lineEnd : List Char
  /-- The empty lines behind it. -/
  emptyLines : List Char
  rest : List Placed

/-- Join the lines of a block scalar behind `lineEnd`; `loose` says whether the line before starts
with a blank. -/
def readBlockLines? (isFolded : Bool) (indent : Nat) :
    (fuel : Nat) → (loose : Bool) → (lineEnd : List Char) → LineLead → Option BlockText
  | 0, _, _, _ => none
  | fuel + 1, loose, lineEnd, lead =>
      match lead.rest with
      | [] => some ⟨[], lineEnd, lead.lineEnds, []⟩
      | first :: _ =>
          if first.column ≠ indent then some ⟨[], lineEnd, lead.lineEnds, lead.rest⟩
          else
            let indented := isSpacing first.character
            let joint :=
              if isFolded && lineEnd = ['\n'] && !loose && !indented then
                folded (lineEnd ++ lead.lineEnds)
              else
                lineEnd ++ lead.lineEnds
            let line := lead.rest.takeWhile fun placed => !isLineEnd placed.character
            let behind := lead.rest.drop line.length
            let nextEnd := (behind.take 1).map Placed.character
            match readLineLead? indent 0 (behind.drop 1) with
            | none => none
            | some nextLead =>
                (readBlockLines? isFolded indent fuel indented nextEnd nextLead).map fun read =>
                  { read with text := joint ++ line.map Placed.character ++ read.text }

def BlockText.chomped (block : BlockText) : Chomping → List Char
  | .strip => block.text
  | .clip => block.text ++ block.lineEnd
  | .keep => block.text ++ block.lineEnd ++ block.emptyLines

/-- Read a block scalar behind its bar; `parent` is the column of the block that it stands in. -/
def readBlockScalar? (isFolded : Bool) (parent : Option Nat) (fuel : Nat) (text : List Placed) :
    Option (List Char × List Placed) := do
  let (header, behind) ← readBlockHeader? text
  let lines ← skipLineRest? behind
  let given := (header.indentation.map fun more => parent.getD 0 + more).getD 0
  let lead ← readLineLead? given 0 lines
  let least := max 1 ((parent.map fun column => column + 1).getD 0)
  let indent := if given = 0 then max least lead.deepest else given
  let block ← readBlockLines? isFolded indent fuel false [] lead
  pure (block.chomped header.chomping, block.rest)

end Yaml
end PoolPlanner
