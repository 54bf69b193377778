import PoolPlanner.Json.Value
import PoolPlanner.Table

/-!
# Reading JSON

Texts to documents.  Containers nest at most one hundred and twenty-seven deep; of two members of
one object under one key the later stays; an escaped surrogate counts only in a pair.  Every reader
takes a value off the front of the text and returns it with the rest.
-/

namespace PoolPlanner
namespace Json

/-- How deep containers may nest. -/
def depthLimit : Nat :=
  127

def isSpace (character : Char) : Bool :=
  character = ' ' || character = '\n' || character = '\t' || character = '\r'

def skipSpace (characters : List Char) : List Char :=
  characters.dropWhile isSpace

def hexValue? (digit : Char) : Option Nat :=
  if digit.isDigit then some (digit.toNat - '0'.toNat)
  else if 'a' ≤ digit ∧ digit ≤ 'f' then some (digit.toNat - 'a'.toNat + 10)
  else if 'A' ≤ digit ∧ digit ≤ 'F' then some (digit.toNat - 'A'.toNat + 10)
  else none

def hexUnit? (a b c d : Char) : Option Nat := do
  let a ← hexValue? a
  let b ← hexValue? b
  let c ← hexValue? c
  let d ← hexValue? d
  pure (((a * 16 + b) * 16 + c) * 16 + d)

/-- The character behind a backslash, other than `u`. -/
def unescape? (character : Char) : Option Char :=
  match character with
  | '"' => some '"'
  | '\\' => some '\\'
  | '/' => some '/'
  | 'b' => some '\x08'
  | 'f' => some '\x0c'
  | 'n' => some '\n'
  | 'r' => some '\r'
  | 't' => some '\t'
  | _ => none

def isLeading (unit : Nat) : Bool :=
  0xD800 ≤ unit && unit ≤ 0xDBFF

def isTrailing (unit : Nat) : Bool :=
  0xDC00 ≤ unit && unit ≤ 0xDFFF

/-- Read a string behind its opening quote. -/
def readString (done : List Char) : List Char → Option (String × List Char)
  | '"' :: rest => some (String.ofList done.reverse, rest)
  | '\\' :: 'u' :: a :: b :: c :: d :: '\\' :: 'u' :: e :: f :: g :: h :: rest =>
      match hexUnit? a b c d with
      | none => none
      | some unit =>
          if isLeading unit then
            match hexUnit? e f g h with
            | none => none
            | some second =>
                if isTrailing second then
                  let code := 0x10000 + (unit - 0xD800) * 0x400 + (second - 0xDC00)
                  readString (Char.ofNat code :: done) rest
                else
                  none
          else if isTrailing unit then none
          else readString (Char.ofNat unit :: done) ('\\' :: 'u' :: e :: f :: g :: h :: rest)
  | '\\' :: 'u' :: a :: b :: c :: d :: rest =>
      match hexUnit? a b c d with
      | none => none
      | some unit =>
          if isLeading unit || isTrailing unit then none
          else readString (Char.ofNat unit :: done) rest
  | '\\' :: escaped :: rest =>
      match unescape? escaped with
      | some character => readString (character :: done) rest
      | none => none
  | character :: rest =>
      if character.toNat < 0x20 || character = '\\' then none
      else readString (character :: done) rest
  | [] => none

/-- The text behind a word, if it starts with that word. -/
def skipWord? (word characters : List Char) : Option (List Char) :=
  if word.isPrefixOf characters then some (characters.drop word.length) else none

def readWord (characters : List Char) : Option (Json × List Char) :=
  match characters with
  | 'n' :: rest => (skipWord? ['u', 'l', 'l'] rest).map fun rest => (.null, rest)
  | 't' :: rest => (skipWord? ['r', 'u', 'e'] rest).map fun rest => (.bool true, rest)
  | 'f' :: rest => (skipWord? ['a', 'l', 's', 'e'] rest).map fun rest => (.bool false, rest)
  | _ => none

def readKey (characters : List Char) : Option (String × List Char) :=
  match skipSpace characters with
  | '"' :: rest =>
      match readString [] rest with
      | none => none
      | some (key, rest) =>
          match skipSpace rest with
          | ':' :: rest => some (key, rest)
          | _ => none
  | _ => none

mutual

def readValue : (fuel depth : Nat) → List Char → Option (Json × List Char)
  | 0, _, _ => none
  | fuel + 1, depth, characters =>
      match skipSpace characters with
      | '"' :: rest => (readString [] rest).map fun read => (.string read.1, read.2)
      | '[' :: rest =>
          match depth with
          | 0 => none
          | depth + 1 =>
              match skipSpace rest with
              | ']' :: rest => some (.array [], rest)
              | rest => readItems fuel depth [] rest
      | '\x7b' :: rest =>
          match depth with
          | 0 => none
          | depth + 1 =>
              match skipSpace rest with
              | '\x7d' :: rest => some (.object [], rest)
              | rest => readMembers fuel depth [] rest
      | first :: rest =>
          if first = '-' || first.isDigit then
            (JsonNumber.read? (first :: rest)).map fun read => (.number read.1, read.2)
          else
            readWord (first :: rest)
      | [] => none

/-- Read the items of an array up to its end; `done` holds those before, the last one first. -/
def readItems : (fuel depth : Nat) → (done : List Json) → List Char → Option (Json × List Char)
  | 0, _, _, _ => none
  | fuel + 1, depth, done, characters =>
      match readValue fuel depth characters with
      | none => none
      | some (item, rest) =>
          match skipSpace rest with
          | ',' :: rest => readItems fuel depth (item :: done) rest
          | ']' :: rest => some (.array (item :: done).reverse, rest)
          | _ => none

/-- Read the members of an object up to its end; `done` holds those before. -/
def readMembers : (fuel depth : Nat) → (done : List (String × Json)) → List Char →
    Option (Json × List Char)
  | 0, _, _, _ => none
  | fuel + 1, depth, done, characters =>
      match readKey characters with
      | none => none
      | some (key, rest) =>
          match readValue fuel depth rest with
          | none => none
          | some (value, rest) =>
              let done := insertEntry key value done
              match skipSpace rest with
              | ',' :: rest => readMembers fuel depth done rest
              | '\x7d' :: rest => some (.object done, rest)
              | _ => none

end

/-- More fuel than any value in a text takes. -/
def fuelFor (characters : List Char) : Nat :=
  2 * characters.length + 2

/-- Read a whole text as one document. -/
def ofText? (text : String) : Option Json :=
  let characters := text.toList
  match readValue (fuelFor characters) depthLimit characters with
  | some (document, rest) => if (skipSpace rest).isEmpty then some document else none
  | none => none

/-- Pass over a string behind its opening quote; surrogates need no partner. -/
def skipString : List Char → Option (List Char)
  | '"' :: rest => some rest
  | '\\' :: 'u' :: a :: b :: c :: d :: rest =>
      match hexUnit? a b c d with
      | some _ => skipString rest
      | none => none
  | '\\' :: escaped :: rest =>
      match unescape? escaped with
      | some _ => skipString rest
      | none => none
  | character :: rest =>
      if character.toNat < 0x20 || character = '\\' then none else skipString rest
  | [] => none

mutual

/-- Pass over a value of any depth, without regard to the size of its numbers. -/
def skipValue : (fuel : Nat) → List Char → Option (List Char)
  | 0, _ => none
  | fuel + 1, characters =>
      match skipSpace characters with
      | '"' :: rest => skipString rest
      | '[' :: rest =>
          match skipSpace rest with
          | ']' :: rest => some rest
          | rest => skipItems fuel rest
      | '\x7b' :: rest =>
          match skipSpace rest with
          | '\x7d' :: rest => some rest
          | rest => skipMembers fuel rest
      | '-' :: rest => (JsonNumber.splitLiteral rest).map Prod.snd
      | first :: rest =>
          if first.isDigit then (JsonNumber.splitLiteral (first :: rest)).map Prod.snd
          else (readWord (first :: rest)).map Prod.snd
      | [] => none

def skipItems : (fuel : Nat) → List Char → Option (List Char)
  | 0, _ => none
  | fuel + 1, characters =>
      match skipValue fuel characters with
      | none => none
      | some rest =>
          match skipSpace rest with
          | ',' :: rest => skipItems fuel rest
          | ']' :: rest => some rest
          | _ => none

def skipMembers : (fuel : Nat) → List Char → Option (List Char)
  | 0, _ => none
  | fuel + 1, characters =>
      match skipSpace characters with
      | '"' :: rest =>
          match skipString rest with
          | none => none
          | some rest =>
              match skipSpace rest with
              | ':' :: rest =>
                  match skipValue fuel rest with
                  | none => none
                  | some rest =>
                      match skipSpace rest with
                      | ',' :: rest => skipMembers fuel rest
                      | '\x7d' :: rest => some rest
                      | _ => none
              | _ => none
      | _ => none

end

end Json
end PoolPlanner
