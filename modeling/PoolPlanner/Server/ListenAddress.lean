import PoolPlanner.Fault

/-!
# Listen addresses

Socket addresses as an operator writes them, and their canonical text.  A version 4 address has
four decimal octets without leading zeros; a version 6 address stands in brackets, may shorten one
run of zero groups, may end in an embedded version 4 address and may name a scope.
-/

namespace PoolPlanner

inductive ListenAddress
  | v4 (octets : List Nat) (port : Nat)
  | v6 (groups : List Nat) (scope port : Nat)
deriving DecidableEq, Repr

namespace ListenAddress

def digitValue? (base : Nat) (digit : Char) : Option Nat :=
  let value :=
    if digit.isDigit then digit.toNat - '0'.toNat
    else if 'a' ≤ digit ∧ digit ≤ 'f' then digit.toNat - 'a'.toNat + 10
    else if 'A' ≤ digit ∧ digit ≤ 'F' then digit.toNat - 'A'.toNat + 10
    else base
  if value < base then some value else none

/-- Read the digits at the front of a text as a number: how many there are, its value, and what
follows. -/
def readDigits (base : Nat) (count value : Nat) : List Char → Nat × Nat × List Char
  | [] => (count, value, [])
  | first :: rest =>
      match digitValue? base first with
      | some digit => readDigits base (count + 1) (value * base + digit) rest
      | none => (count, value, first :: rest)

/-- Read a decimal number up to a greatest one; leading zeros are allowed. -/
def readDecimal (greatest : Nat) (characters : List Char) : Option (Nat × List Char) :=
  match readDigits 10 0 0 characters with
  | (0, _, _) => none
  | (_, value, rest) => if value ≤ greatest then some (value, rest) else none

/-- Read an octet: up to three digits, none of them a leading zero. -/
def readOctet (characters : List Char) : Option (Nat × List Char) :=
  match readDigits 10 0 0 characters with
  | (count, value, rest) =>
      let leadingZero := characters.head? = some '0' && 1 < count
      if count = 0 || 3 < count || leadingZero || 255 < value then none else some (value, rest)

def readGroup (characters : List Char) : Option (Nat × List Char) :=
  match readDigits 16 0 0 characters with
  | (count, value, rest) => if count = 0 || 4 < count then none else some (value, rest)

def expect (character : Char) : List Char → Option (List Char)
  | [] => none
  | first :: rest => if first = character then some rest else none

def readOctets (characters : List Char) : Option (List Nat × List Char) := do
  let (first, rest) ← readOctet characters
  let (second, rest) ← readOctet (← expect '.' rest)
  let (third, rest) ← readOctet (← expect '.' rest)
  let (fourth, rest) ← readOctet (← expect '.' rest)
  pure ([first, second, third, fourth], rest)

/-- Two groups with the bits of four octets. -/
def groupsOfOctets : List Nat → List Nat
  | [first, second, third, fourth] => [first * 256 + second, third * 256 + fourth]
  | _ => []

/-- Read up to `limit` groups, with a colon before each if `separated`, and say whether the last
two were written as octets. -/
def readGroups : (limit : Nat) → (separated : Bool) → List Char → List Nat × Bool × List Char
  | 0, _, characters => ([], false, characters)
  | limit + 1, separated, characters =>
      let start := if separated then expect ':' characters else some characters
      match if limit = 0 then none else start.bind readOctets with
      | some (octets, rest) => (groupsOfOctets octets, true, rest)
      | none =>
          match start.bind readGroup with
          | some (group, rest) =>
              let (groups, embedded, rest) := readGroups limit true rest
              (group :: groups, embedded, rest)
          | none => ([], false, characters)

def readAllGroups (characters : List Char) : Option (List Nat × List Char) :=
  match readGroups 8 false characters with
  | (head, embedded, rest) =>
      if head.length = 8 then some (head, rest)
      else if embedded then none
      else
        match rest with
        | ':' :: ':' :: rest =>
            match readGroups (7 - head.length) false rest with
            | (tail, _, rest) =>
                let zeros := List.replicate (8 - head.length - tail.length) 0
                some (head ++ zeros ++ tail, rest)
        | _ => none

def readPort (characters : List Char) : Option Nat := do
  match ← readDecimal 65535 (← expect ':' characters) with
  | (port, []) => pure port
  | _ => none

/-- Read the scope of a version 6 address, zero if there is none. -/
def readScope (characters : List Char) : Nat × List Char :=
  match (expect '%' characters).bind (readDecimal (2 ^ 32 - 1)) with
  | some read => read
  | none => (0, characters)

def readV4? (characters : List Char) : Option ListenAddress := do
  let (octets, rest) ← readOctets characters
  pure (.v4 octets (← readPort rest))

def readV6? (characters : List Char) : Option ListenAddress := do
  let (groups, rest) ← readAllGroups (← expect '[' characters)
  let (scope, rest) := readScope rest
  pure (.v6 groups scope (← readPort (← expect ']' rest)))

def read (text : String) : Except Fault ListenAddress :=
  match (readV4? text.toList).or (readV6? text.toList) with
  | some address => .ok address
  | none => .error (.configuration (.listenAddress text))

def port : ListenAddress → Nat
  | .v4 _ port => port
  | .v6 _ _ port => port

def isV6 : ListenAddress → Bool
  | .v4 _ _ => false
  | .v6 _ _ _ => true

def octetsText (octets : List Nat) : String :=
  ".".intercalate (octets.map toString)

/-- A group as text: hexadecimal without leading zeros. -/
def groupText (group : Nat) : String :=
  String.ofList (Nat.toDigits 16 group)

def groupsText (groups : List Nat) : String :=
  ":".intercalate (groups.map groupText)

def leadingZeros (groups : List Nat) : Nat :=
  (groups.takeWhile fun group => group = 0).length

/-- Where the longest run of zeros starts, the first of several, and how long it is. -/
def longestZeros (position : Nat) : List Nat → Nat × Nat
  | [] => (position, 0)
  | group :: rest =>
      let here := leadingZeros (group :: rest)
      let later := longestZeros (position + 1) rest
      if later.2 ≤ here then (position, here) else later

/-- The text of a version 6 address: the longest run of at least two zero groups is left out, and
an embedded version 4 address is written with octets. -/
def hostText (groups : List Nat) : String :=
  match groups with
  | [0, 0, 0, 0, 0, 0xFFFF, high, low] =>
      "::ffff:" ++ octetsText [high / 256, high % 256, low / 256, low % 256]
  | _ =>
      let (start, length) := longestZeros 0 groups
      if length < 2 then groupsText groups
      else groupsText (groups.take start) ++ "::" ++ groupsText (groups.drop (start + length))

def text : ListenAddress → String
  | .v4 octets port => s!"{octetsText octets}:{port}"
  | .v6 groups scope port =>
      let zone := if scope = 0 then "" else s!"%{scope}"
      s!"[{hostText groups}{zone}]:{port}"

end ListenAddress
end PoolPlanner
