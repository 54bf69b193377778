/-!
# Media types

Which content types name JSON: `application/json` and every `application` type with the suffix
`+json`, in any case and with parameters.
-/

namespace PoolPlanner
namespace MediaType

def isTokenChar (character : Char) : Bool :=
  character.isAlphanum ||
    ['!', '#', '$', '%', '&', '\'', '*', '+', '-', '.', '^', '_', '\x60', '|', '~'].contains
      character

/-- Whether a character may stand between quotes: a visible one of ASCII, or a space. -/
def isQuotedChar (character : Char) : Bool :=
  31 < character.toNat && character.toNat < 127

/-- Pass over a quoted text of at least one character, behind its opening quote. -/
def skipQuoted? : List Char → Option (List Char)
  | [] => none
  | first :: rest =>
      let content := rest.takeWhile fun character => character ≠ '"'
      if (first :: content).all isQuotedChar then
        match rest.drop content.length with
        | _ :: behind => some behind
        | [] => none
      else
        none

def areParameters : (fuel : Nat) → List Char → Bool
  | 0, _ => false
  | _ + 1, [] => true
  | fuel + 1, ' ' :: rest => areParameters fuel rest
  | fuel + 1, characters =>
      let name := characters.takeWhile isTokenChar
      if name.isEmpty then false
      else
        match characters.drop name.length with
        | '=' :: '"' :: quoted =>
            match (skipQuoted? quoted).map fun rest => rest.dropWhile fun next => next = ' ' with
            | some [] => true
            | some (';' :: rest) => areParameters fuel rest
            | _ => false
        | '=' :: value =>
            let token := value.takeWhile isTokenChar
            match value.drop token.length with
            | [] => true
            | ';' :: rest => !token.isEmpty && areParameters fuel rest
            | _ => false
        | _ => false

/-- The part of a subtype before its last plus sign and the suffix behind that; a plus sign at the
front belongs to the name. -/
def splitSuffix (subtype : List Char) : List Char × Option (List Char) :=
  let suffix := (subtype.reverse.takeWhile fun character => character ≠ '+').reverse
  let name := subtype.take (subtype.length - suffix.length - 1)
  if suffix.length < subtype.length && !name.isEmpty then (name, some suffix) else (subtype, none)

def isJson (contentType : String) : Bool :=
  let characters := contentType.toList
  let type := characters.takeWhile isTokenChar
  match characters.drop type.length with
  | '/' :: rest =>
      let subtype := rest.takeWhile isTokenChar
      let wellFormed :=
        match rest.drop subtype.length with
        | [] => true
        | first :: parameters =>
            first = ';' && !subtype.isEmpty && areParameters (parameters.length + 1) parameters
      let (name, suffix) := splitSuffix (subtype.map Char.toLower)
      let json := ['j', 's', 'o', 'n']
      wellFormed && type.map Char.toLower = "application".toList &&
        (name = json || suffix = some json)
  | _ => false

end MediaType
end PoolPlanner
