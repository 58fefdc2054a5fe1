import ProviderRouting.Requests.Reply
import ProviderRouting.Rule.Basic
import ProviderRouting.Text.Glob

/-!
# Requests without state

Operations that read their whole input from the request and keep nothing: pattern matching, the
group of a path, the names of groups and kinds, and the default file places.
-/

namespace ProviderRouting.Requests

open ProviderRouting.Json

def matchesRequest (req : Value) : Reply Value := do
  let pattern ← strMember req "pattern"
  let value ← strMember req "value"
  pure (.bool (Glob.accepts pattern value))

def groupFromPathRequest (req : Value) : Reply Value := do
  let path ← strMember req "path"
  pure (.str (Group.ofPath path).name)

def isProtectedRequest (req : Value) : Reply Value := do
  let kind ← kindNamed (← strMember req "ruleType")
  let pattern ← strMember req "pattern"
  pure (.bool (isProtected kind pattern))

def parseGroupRequest (req : Value) : Reply Value := do
  let g ← groupNamed (← strMember req "value")
  pure (Value.record [("value", .str g.name), ("catchAll", .str g.catchAll)])

def parseKindRequest (req : Value) : Reply Value := do
  let k ← kindNamed (← strMember req "value")
  pure (.str k.name)

def defaultPathsRequest : Value :=
  Value.record [("config", .str "~/.routecast/config.yaml"), ("dataDir", .str "~/.routecast"),
    ("dbPath", .str "~/.routecast/routecast.db"), ("logDir", .str "~/.routecast/logs")]

end ProviderRouting.Requests
