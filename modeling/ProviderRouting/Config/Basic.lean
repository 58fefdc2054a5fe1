import ProviderRouting.Provider.Wire

/-!
# Router configuration

The configuration says where the database and the legacy settings file are (none meaning the
defaults), how logging is set up, whether default rules are made on load, and the deletion
policy. Every field may be left out; a left-out field takes its default: logging enabled at
level `info` to standard error, default rules made, rules of a removed provider dropped.

On the JSON wire the names are snake_case and paths are strings.
-/

namespace ProviderRouting

open ProviderRouting.Json

/-- How logging is set up. -/
structure LoggingConfig where
  enabled : Bool := true
  level : String := "info"
  logFile : Option String := none
  deriving Repr, DecidableEq

/-- The router configuration. -/
structure RouterConfig where
  databasePath : Option String := none
  legacySettingsPath : Option String := none
  logging : LoggingConfig := {}
  bootstrap : Bool := true
  deletion : DeletionPolicy := .cascade
  deriving Repr, DecidableEq

/-! ## JSON -/

def Decoder.path : Decoder String
  | .str s => .ok s
  | v => .error (.invalidType v.found "path string")

def LoggingConfig.fields : List Field :=
  [.of "enabled" .defaulted Decoder.bool, .of "level" .defaulted Decoder.string,
    .of "log_file" .defaulted (Decoder.option Decoder.path)]

def LoggingConfig.decode : Decoder LoggingConfig :=
  Decoder.record "struct LoggingConfig" LoggingConfig.fields fun m => do
    pure {
      enabled := ← either m "enabled" Decoder.bool true
      level := ← either m "level" Decoder.string "info"
      logFile := ← either m "log_file" (Decoder.option Decoder.path) none }

def bootstrapFields : List Field := [.of "enabled" .defaulted Decoder.bool]

def decodeBootstrap : Decoder Bool :=
  Decoder.record "struct BootstrapConfig" bootstrapFields fun m =>
    either m "enabled" Decoder.bool true

def RouterConfig.fields : List Field :=
  [.of "database_path" .defaulted (Decoder.option Decoder.path),
    .of "legacy_settings_path" .defaulted (Decoder.option Decoder.path),
    .of "logging" .defaulted LoggingConfig.decode, .of "bootstrap" .defaulted decodeBootstrap,
    .of "provider_deletion" .defaulted DeletionPolicy.decode]

def RouterConfig.decode : Decoder RouterConfig :=
  Decoder.record "struct RouterConfig" RouterConfig.fields fun m => do
    pure {
      databasePath := ← either m "database_path" (Decoder.option Decoder.path) none
      legacySettingsPath := ← either m "legacy_settings_path" (Decoder.option Decoder.path) none
      logging := ← either m "logging" LoggingConfig.decode {}
      bootstrap := ← either m "bootstrap" decodeBootstrap true
      deletion := ← either m "provider_deletion" DeletionPolicy.decode .cascade }

def LoggingConfig.toValue (l : LoggingConfig) : Value :=
  Value.record [("enabled", .bool l.enabled), ("level", .str l.level),
    ("log_file", Value.ofOption l.logFile)]

def RouterConfig.toValue (c : RouterConfig) : Value :=
  Value.record [("database_path", Value.ofOption c.databasePath),
    ("legacy_settings_path", Value.ofOption c.legacySettingsPath),
    ("logging", c.logging.toValue),
    ("bootstrap", Value.record [("enabled", .bool c.bootstrap)]),
    ("provider_deletion", .str c.deletion.name)]

end ProviderRouting
