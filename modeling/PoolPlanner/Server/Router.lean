import PoolPlanner.Server.MediaType
import PoolPlanner.Server.RequestBody
import PoolPlanner.Hook.Sync

/-!
# Routes

The hook server: one route per hook, and the probes that tell whether it is alive and ready.  A
request for a hook is refused for its content type before its length, for its length before its
text, and for the name of its hook last.
-/

namespace PoolPlanner
namespace Server

structure Request where
  method : String
  target : String
  contentType : Option String := none
  body : String := ""

inductive Content
  | none
  | text (text : String)
  | json (document : Json)

structure Response where
  status : Nat
  content : Content

/-- The answer to a request, and the hook that was called with its outcome. -/
structure Answer where
  response : Response
  call : Option (Hook × Outcome) := none

/-- An answer that tells its status only. -/
def Answer.refusal (status : Nat) : Answer where
  response := ⟨status, .none⟩

inductive Route
  | probe
  /-- A hook, by its name as the path holds it. -/
  | hook (segment : String)
deriving DecidableEq, Repr

def isSchemeChar (character : Char) : Bool :=
  character.isAlphanum || character = '+' || character = '-' || character = '.'

/-- What follows the authority of a target that names its scheme and its host. -/
def behindAuthority? (target : List Char) : Option (List Char) :=
  match target.dropWhile isSchemeChar with
  | ':' :: '/' :: '/' :: rest =>
      some (rest.dropWhile fun character =>
        character ≠ '/' && character ≠ '?' && character ≠ '#')
  | _ => none

/-- The path of a request target: what stands before a query, without scheme and authority.  Behind
an authority no path is the root. -/
def pathOf (target : String) : List Char :=
  let path (text : List Char) : List Char :=
    text.takeWhile fun character => character ≠ '?' && character ≠ '#'
  match behindAuthority? target.toList with
  | none => path target.toList
  | some rest => if (path rest).isEmpty then ['/'] else path rest

def Route.ofPath? (path : List Char) : Option Route :=
  if path = "/healthz".toList || path = "/readyz".toList then some .probe
  else
    let root := "/v1/sync/".toList
    if root.isPrefixOf path then
      let segment := path.drop root.length
      if segment.isEmpty || segment.contains '/' then none
      else some (.hook (String.ofList segment))
    else
      none

/-- The bytes that a segment of a path stands for: a percent sign with two hexadecimal digits is one
byte, and everything else is itself. -/
def percentDecoded : List Char → List UInt8
  | '%' :: high :: low :: rest =>
      match Json.hexValue? high, Json.hexValue? low with
      | some high, some low => UInt8.ofNat (high * 16 + low) :: percentDecoded rest
      | _, _ => '%'.toUInt8 :: percentDecoded (high :: low :: rest)
  | first :: rest => String.utf8EncodeChar first ++ percentDecoded rest
  | [] => []

/-- The text of a segment, unless its bytes are none. -/
def segmentText? (segment : String) : Option String :=
  String.fromUTF8? ⟨(percentDecoded segment.toList).toArray⟩

def unknownHook (name : String) : Answer where
  response :=
    let known := inTextOrder (Hook.all.map Hook.name)
    ⟨404, .json (.ofMembers
      [("details", some (.string ("known hooks: " ++ ", ".intercalate known))),
        ("error", some (.string "unknown_hook")),
        ("message", some (.string s!"No hook named {name}"))])⟩

def answerHook (settings : OperatorConfig) (now : Instant) (name : String) (request : Request) :
    LedgerProgram Answer :=
  if !(request.contentType.any MediaType.isJson) then pure (.refusal 415)
  else if settings.maxBodyBytes < request.body.utf8ByteSize then pure (.refusal 413)
  else
    match HookRequest.ofBody request.body with
    | .error .malformed => pure (.refusal 400)
    | .error .mistyped => pure (.refusal 422)
    | .ok hookRequest =>
        match Hook.ofName? name with
        | none => pure (unknownHook name)
        | some hook => do
            let (response, outcome) ← hook.sync hookRequest settings now
            pure
              { response := ⟨200, .json response.encode⟩
                call := some (hook, outcome) }

def answer (settings : OperatorConfig) (now : Instant) (request : Request) :
    LedgerProgram Answer :=
  match Route.ofPath? (pathOf request.target) with
  | none => pure (.refusal 404)
  | some .probe =>
      match request.method with
      | "GET" => pure { response := ⟨200, .text "ok"⟩ }
      | "HEAD" => pure { response := ⟨200, .text ""⟩ }
      | _ => pure (.refusal 405)
  | some (.hook segment) =>
      if request.method ≠ "POST" then pure (.refusal 405)
      else
        match segmentText? segment with
        | none => pure (.refusal 400)
        | some name => answerHook settings now name request

end Server
end PoolPlanner
