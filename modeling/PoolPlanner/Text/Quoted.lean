import PoolPlanner.Text.Glyphless

/-!
# Quoted texts

How a message shows a text taken from its input: between double quotes, with the quote, the
backslash and every glyphless character written as an escape.
-/

namespace PoolPlanner
namespace Text

/-- A code point as lower-case hexadecimal digits without padding. -/
def hexDigits (code : Nat) : List Char :=
  Nat.toDigits 16 code

/-- One character as it stands between quotes. -/
def quoteChar (character : Char) : List Char :=
  match character with
  | '\x00' => ['\\', '0']
  | '\t' => ['\\', 't']
  | '\n' => ['\\', 'n']
  | '\r' => ['\\', 'r']
  | '"' => ['\\', '"']
  | '\\' => ['\\', '\\']
  | other =>
      if isGlyphless other then
        ['\\', 'u', '\x7b'] ++ hexDigits other.toNat ++ ['\x7d']
      else
        [other]

/-- A text between double quotes, escaped. -/
def quote (text : String) : String :=
  String.ofList (['"'] ++ text.toList.flatMap quoteChar ++ ['"'])

end Text
end PoolPlanner
