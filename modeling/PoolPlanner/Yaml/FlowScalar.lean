import PoolPlanner.Json.Reader
import PoolPlanner.Yaml.Placed

/-!
# Plain and quoted scalars

Scalars whose line ends are folded.  A plain scalar is words with gaps between them and ends where
something else starts or where the indentation ends; a quoted one goes on to its second quote.
-/

namespace PoolPlanner
namespace Yaml

/-- Whether a character separates or brackets what stands in a flow collection. -/
def isFlowMark (character : Char) : Bool :=
  character = ',' || character = '[' || character = ']' || character = '\x7b' ||
    character = '\x7d'

def endsPlain (flow : Bool) (text : List Placed) : Bool :=
  match text with
  | [] => true
  | first :: rest =>
      isGapChar first.character || (first.character = ':' && isWordEnd rest) ||
        (flow && isFlowMark first.character)

/-- Whether a colon stands where it neither ends a word nor belongs to one. -/
def isStrayColon (flow : Bool) (text : List Placed) : Bool :=
  flow && next? text = some ':' &&
    (next? (text.drop 1)).any fun following => following = '?' || isFlowMark following

def readPlainWord? (flow : Bool) : List Placed → Option (List Char × List Placed)
  | [] => some ([], [])
  | first :: rest =>
      if isStrayColon flow (first :: rest) then none
      else if endsPlain flow (first :: rest) then some ([], first :: rest)
      else
        (readPlainWord? flow rest).map fun word => (first.character :: word.1, word.2)

structure PlainText where
  text : List Char
  /-- Whether line ends were passed behind it. -/
  broken : Bool
  rest : List Placed

/-- Read a plain scalar behind a gap; lines that are indented by less than `indent` are no part of
it, unless it stands in a flow collection. -/
def readPlain? (flow : Bool) (indent : Nat) : (fuel : Nat) → Gap → Option PlainText
  | 0, _ => none
  | fuel + 1, gap =>
      let finished : PlainText := ⟨[], !gap.lineEnds.isEmpty, gap.rest⟩
      if isDocumentMark gap.rest || next? gap.rest = some '#' then some finished
      else
        match readPlainWord? flow gap.rest with
        | none => none
        | some ([], _) => some finished
        | some (word, behind) =>
            match Gap.read? indent false behind with
            | none => none
            | some further =>
                let last : PlainText := ⟨[], !further.lineEnds.isEmpty, further.rest⟩
                let continuation :=
                  if !flow && columnOf further.rest < indent then some last
                  else readPlain? flow indent fuel further
                continuation.map fun read => { read with text := gap.text ++ word ++ read.text }

/-- The character that an escape of one character stands for. -/
def escaped? (mark : Char) : Option Char :=
  match mark with
  | '0' => some '\x00'
  | 'a' => some '\x07'
  | 'b' => some '\x08'
  | 't' => some '\t'
  | '\t' => some '\t'
  | 'n' => some '\n'
  | 'v' => some '\x0b'
  | 'f' => some '\x0c'
  | 'r' => some '\r'
  | 'e' => some '\x1b'
  | ' ' => some ' '
  | '"' => some '"'
  | '/' => some '/'
  | '\\' => some '\\'
  | 'N' => some '\u0085'
  | '_' => some '\u00a0'
  | 'L' => some '\u2028'
  | 'P' => some '\u2029'
  | _ => none

/-- How many hexadecimal digits follow an escape. -/
def escapeWidth? (mark : Char) : Option Nat :=
  match mark with
  | 'x' => some 2
  | 'u' => some 4
  | 'U' => some 8
  | _ => none

/-- The character with a hexadecimal code, unless it is a surrogate or too large. -/
def charOfHex? (digits : List Char) : Option Char := do
  let code ← digits.foldl
    (fun value digit => do
      let value ← value
      let digit ← Json.hexValue? digit
      pure (value * 16 + digit))
    (some 0)
  if code < 0xD800 ∨ (0xDFFF < code ∧ code < 0x110000) then pure (Char.ofNat code) else none

def readEscape? : List Placed → Option (Char × List Placed)
  | [] => none
  | mark :: rest =>
      match escaped? mark.character with
      | some character => some (character, rest)
      | none =>
          match escapeWidth? mark.character with
          | none => none
          | some width =>
              if rest.length < width then none
              else
                (charOfHex? ((rest.take width).map Placed.character)).map fun character =>
                  (character, rest.drop width)

inductive Quote
  | single
  | double
deriving DecidableEq

def Quote.character : Quote → Char
  | .single => '\''
  | .double => '"'

structure QuotedWord where
  word : List Char
  /-- Whether an escaped line end stands behind it, which counts for nothing. -/
  joined : Bool
  rest : List Placed

def readQuotedWord? (quote : Quote) : (fuel : Nat) → List Placed → Option QuotedWord
  | 0, _ => none
  | _, [] => some ⟨[], false, []⟩
  | fuel + 1, first :: rest =>
      let goOn (character : Char) (rest : List Placed) : Option QuotedWord :=
        (readQuotedWord? quote fuel rest).map fun read =>
          { read with word := character :: read.word }
      if isGapChar first.character then some ⟨[], false, first :: rest⟩
      else if first.character = quote.character then
        if quote = .single && next? rest = some '\'' then goOn '\'' (rest.drop 1)
        else some ⟨[], false, first :: rest⟩
      else if quote = .double && first.character = '\\' then
        if (next? rest).any isLineEnd then some ⟨[], true, rest.drop 1⟩
        else
          match readEscape? rest with
          | none => none
          | some (character, rest) => goOn character rest
      else goOn first.character rest

/-- Read a quoted scalar behind its first quotation mark. -/
def readQuoted? (quote : Quote) : (fuel : Nat) → List Placed → Option (List Char × List Placed)
  | 0, _ => none
  | fuel + 1, text =>
      if text.isEmpty || isDocumentMark text then none
      else
        match readQuotedWord? quote fuel text with
        | none => none
        | some ⟨word, joined, behind⟩ =>
            if next? behind = some quote.character then some (word, behind.drop 1)
            else
              match Gap.read? 0 joined behind with
              | none => none
              | some gap =>
                  let between := if joined then gap.lineEnds else gap.text
                  (readQuoted? quote fuel gap.rest).map fun read =>
                    (word ++ between ++ read.1, read.2)

end Yaml
end PoolPlanner
