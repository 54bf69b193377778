import PoolPlanner.Hook.Request
import PoolPlanner.Json.Reader

/-!
# Request bodies

Hook requests are read straight off the text of a body, so the first fault in the order of the text
is the one that counts: text that is no JSON, or JSON that is no hook request.  Members that a
request does not have are passed over, and so is everything behind the request.
-/

namespace PoolPlanner

inductive BodyFault
  /-- The text is no JSON. -/
  | malformed
  /-- The value in the text is no hook request. -/
  | mistyped
deriving DecidableEq, Repr

/-- What reads a value off the front of a body and returns the rest. -/
abbrev BodyReader (α : Type) :=
  List Char → Except BodyFault (α × List Char)

namespace BodyReader

/-- The fault of a value of the wrong type: a scalar is read first, a container is not. -/
def mistyped (characters : List Char) : BodyFault :=
  match Json.skipSpace characters with
  | '[' :: _ => .mistyped
  | '\x7b' :: _ => .mistyped
  | _ =>
      match Json.readValue 1 0 characters with
      | some _ => .mistyped
      | none => .malformed

def document (depth : Nat) : BodyReader Json := fun characters =>
  match Json.readValue (Json.fuelFor characters) depth characters with
  | some read => .ok read
  | none => .error .malformed

def truth : BodyReader Bool := fun characters =>
  match Json.readValue 1 0 characters with
  | some (.bool value, rest) => .ok (value, rest)
  | _ => .error (mistyped characters)

def behindColon {α : Type} (read : BodyReader α) : BodyReader α := fun characters =>
  match Json.skipSpace characters with
  | ':' :: rest => read rest
  | _ => .error .malformed

/-- Read the members of an object up to its end; `take` reads what stands behind a key. -/
def members {σ : Type} (take : σ → String → BodyReader σ) : (fuel : Nat) → σ → BodyReader σ
  | 0, _, _ => .error .malformed
  | fuel + 1, state, characters =>
      match Json.skipSpace characters with
      | '"' :: rest =>
          match Json.readString [] rest with
          | none => .error .malformed
          | some (key, rest) =>
              match take state key rest with
              | .error fault => .error fault
              | .ok (state, rest) =>
                  match Json.skipSpace rest with
                  | ',' :: rest => members take fuel state rest
                  | '\x7d' :: rest => .ok (state, rest)
                  | _ => .error .malformed
      | _ => .error .malformed

def object {σ : Type} (take : σ → String → BodyReader σ) (start : σ) : BodyReader σ :=
  fun characters =>
    match Json.skipSpace characters with
    | '\x7d' :: rest => .ok (start, rest)
    | rest => members take (rest.length + 1) start rest

def table {α : Type} (read : BodyReader α) : BodyReader (Table α) := fun characters =>
  match Json.skipSpace characters with
  | '\x7b' :: rest =>
      object (fun table key rest =>
        (behindColon read rest).map fun taken => (table.insert key taken.1, taken.2)) .empty rest
  | _ => .error (mistyped characters)

end BodyReader

namespace HookRequest

structure Parts where
  watch : Option Json := none
  attachments : Option Attachments := none
  finalizing : Option Bool := none

/-- The request of some parts; what is watched has to be among them. -/
def Parts.request? (parts : Parts) : Except BodyFault HookRequest :=
  match parts.watch with
  | some watch =>
      .ok
        { watch, attachments := parts.attachments.getD .empty
          finalizing := parts.finalizing.getD false }
  | none => .error .mistyped

def readWatch : BodyReader Json :=
  .document (Json.depthLimit - 1)

def readAttachments : BodyReader Attachments :=
  .table (.table (.document (Json.depthLimit - 3)))

/-- Read the part of a request under a key; no part may stand twice. -/
def takePart (parts : Parts) (key : String) : BodyReader Parts := fun characters =>
  match key with
  | "watch" =>
      if parts.watch.isSome then .error .mistyped
      else
        (BodyReader.behindColon readWatch characters).map fun read =>
          ({ parts with watch := some read.1 }, read.2)
  | "attachments" =>
      if parts.attachments.isSome then .error .mistyped
      else
        (BodyReader.behindColon readAttachments characters).map fun read =>
          ({ parts with attachments := some read.1 }, read.2)
  | "finalizing" =>
      if parts.finalizing.isSome then .error .mistyped
      else
        (BodyReader.behindColon .truth characters).map fun read =>
          ({ parts with finalizing := some read.1 }, read.2)
  | _ =>
      match Json.skipSpace characters with
      | ':' :: rest =>
          match Json.skipValue (Json.fuelFor rest) rest with
          | some rest => .ok (parts, rest)
          | none => .error .malformed
      | _ => .error .malformed

/-- Read the next item of an array into a request, unless the array ends here. -/
def takeItem {α : Type} (first : Bool) (read : BodyReader α) : BodyReader (Option α) :=
  fun characters =>
    match Json.skipSpace characters with
    | ']' :: rest => .ok (none, ']' :: rest)
    | ',' :: rest =>
        if first then .error .malformed
        else
          match Json.skipSpace rest with
          | ']' :: _ => .error .malformed
          | _ => (read rest).map fun taken => (some taken.1, taken.2)
    | rest =>
        if first then (read rest).map fun taken => (some taken.1, taken.2)
        else .error .malformed

/-- Read a request that stands in an array, behind its bracket. -/
def readItems (characters : List Char) : Except BodyFault HookRequest := do
  let (watch, rest) ← takeItem true readWatch characters
  match watch with
  | none => .error .mistyped
  | some watch =>
      let (attachments, rest) ← takeItem false readAttachments rest
      let (finalizing, rest) ←
        match attachments with
        | some _ => takeItem false .truth rest
        | none => pure (none, rest)
      match Json.skipSpace rest with
      | ']' :: _ => Parts.request? { watch := some watch, attachments, finalizing }
      | _ => .error .malformed

def ofBody (body : String) : Except BodyFault HookRequest :=
  match Json.skipSpace body.toList with
  | '\x7b' :: rest =>
      match BodyReader.object takePart {} rest with
      | .ok (parts, _) => parts.request?
      | .error fault => .error fault
  | '[' :: rest => readItems rest
  | rest => .error (BodyReader.mistyped rest)

end HookRequest
end PoolPlanner
