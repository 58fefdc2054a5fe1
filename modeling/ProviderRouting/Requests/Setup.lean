import ProviderRouting.Requests.Shapes
import ProviderRouting.Logging.Setup
import ProviderRouting.Config.Yaml

/-!
# Requests on setting up

`logging` checks a logging configuration the way setting up logging does, with the environment's
filter given as `rustLog`. `config_load` reads a configuration file's text (null for a file that
is not there, which gives the defaults) and `config_save` writes one, saying whether reading it
back gives the same configuration.
-/

namespace ProviderRouting.Requests

open ProviderRouting.Json

def loggingRequest (req : Value) : Reply Value := do
  let config ← match req.get? "config" with
    | none => pure {}
    | some v => decoded (LoggingConfig.decode v)
  if config.logFile.any (·.startsWith "/") then throw (badRequest "log_file must be relative")
  let env ← optStrMember req "rustLog"
  match config.setup env with
  | .ok () => pure .null
  | .error (.refused message) => throw (errorReply "logging" message)
  | .error (.stopped message) => throw (errorReply "panic" message)

def configLoadRequest (req : Value) : Reply Value :=
  match req.get? "yaml" with
  | some (.str text) =>
    match RouterConfig.ofYaml text with
    | .ok c => pure c.toValue
    | .error e => throw (errorReply "config" e.text)
  | _ => pure ({} : RouterConfig).toValue

def configSaveRequest (req : Value) : Reply Value := do
  let config ← match req.get? "config" with
    | none => throw (badRequest "missing field config")
    | some v => decoded (RouterConfig.decode v)
  let text := config.toYaml
  let same := match RouterConfig.ofYaml text with
    | .ok c => decide (c = config)
    | .error _ => false
  pure (Value.record [("yaml", .str text), ("roundTrip", .bool same)])

end ProviderRouting.Requests
