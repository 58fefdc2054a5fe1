import ProviderRouting.Json.Reader
import ProviderRouting.Error
import ProviderRouting.Rule.Basic

/-!
# Replies

A request is one JSON object naming an operation in its `op` member; its reply is
`{"ok": value}` or `{"error": kind, "message": text}`, with a `class` member for router errors.
`Reply α` is the result of reading a request or running an operation: a value, or the error
reply already built.

The member readers here give the request-level complaints: a missing member, a member of the
wrong type, an unknown operation. A list member left out, or null, is an empty list.
-/

namespace ProviderRouting.Requests

open ProviderRouting.Json

abbrev Reply (α : Type) := Except Value α

def okReply (v : Value) : Value := Value.record [("ok", v)]

def errorReply (kind message : String) : Value :=
  Value.record [("error", .str kind), ("message", .str message)]

def badRequest (message : String) : Value := errorReply "bad_request" message

def routerReply (e : RouterError) : Value :=
  Value.record [("error", .str e.code), ("message", .str e.message),
    ("class", .str e.errorClass)]

def failureReply : Failure → Value
  | .error e => routerReply e
  | .overflow => errorReply "panic" overflowMessage

def storeReply (e : StoreError) : Value := errorReply "storage" e.message

def decodeReply (message : String) : Value := errorReply "deserialize" message

def unknownVariantReply (s : String) : Value :=
  errorReply "unknown_variant" ("无法识别的取值: " ++ s)

def ofRouter {α : Type} (r : Except RouterError α) : Reply α := r.mapError routerReply

def ofFailure {α : Type} (r : Except Failure α) : Reply α := r.mapError failureReply

def member (req : Value) (name : String) : Reply Value :=
  match req.get? name with
  | some v => .ok v
  | none => .error (badRequest ("missing field " ++ name))

def strMember (req : Value) (name : String) : Reply String := do
  match ← member req name with
  | .str s => pure s
  | _ => throw (badRequest ("field " ++ name ++ " must be a string"))

def optStrMember (req : Value) (name : String) : Reply (Option String) :=
  match req.get? name with
  | none | some .null => .ok none
  | some (.str s) => .ok (some s)
  | some _ => .error (badRequest ("field " ++ name ++ " must be a string or null"))

def arrMember (req : Value) (name complaint : String) : Reply (List Value) :=
  match req.get? name with
  | some (.arr xs) => .ok xs
  | _ => .error (badRequest complaint)

/-- A list member: absent or null is the empty list, an array its items, anything else the
complaint. -/
def listMember (req : Value) (name complaint : String) : Reply (List Value) :=
  match req.get? name with
  | none | some .null => .ok []
  | some (.arr xs) => .ok xs
  | some _ => .error (badRequest complaint)

def memberOr (req : Value) (name : String) (absent : Value) : Value :=
  (req.get? name).getD absent

def groupNamed (s : String) : Reply Group :=
  match Group.ofName? s with
  | some g => .ok g
  | none => .error (unknownVariantReply s)

def kindNamed (s : String) : Reply RuleKind :=
  match RuleKind.ofName? s with
  | some k => .ok k
  | none => .error (unknownVariantReply s)

end ProviderRouting.Requests
