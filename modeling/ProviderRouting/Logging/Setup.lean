import ProviderRouting.Logging.Filter
import ProviderRouting.Config.Basic

/-!
# Setting up logging

Logging set up from a configuration filters with the filter of the environment when there is
one and it is accepted, and with the configured level otherwise; a configured level that is
refused is an error. Disabled logging needs nothing, so nothing is checked then. Reading either
filter may stop short (`Reading.stopped`), and then setting up stops with it.
-/

namespace ProviderRouting

open ProviderRouting.Logging

def Logging.badLevel (level : String) : String := "无效的日志级别: " ++ level

/-- Why logging could not be set up. -/
inductive SetupFailure where
  | refused (message : String)
  | stopped (message : String)
  deriving Repr, DecidableEq

def LoggingConfig.setupLevel (c : LoggingConfig) : Except SetupFailure Unit :=
  match Filter.read c.level with
  | .accepted => .ok ()
  | .refused => .error (.refused (badLevel c.level))
  | .stopped m => .error (.stopped m)

def LoggingConfig.setup (c : LoggingConfig) (env : Option String) : Except SetupFailure Unit :=
  if !c.enabled then .ok ()
  else
    match env.map Filter.read with
    | some .accepted => .ok ()
    | some (.stopped m) => .error (.stopped m)
    | _ => c.setupLevel

end ProviderRouting
