import ProviderRouting.Config.Basic
import ProviderRouting.Yaml.Read
import ProviderRouting.Yaml.Tree

/-!
# The configuration file

The configuration file is a YAML mapping with the snake_case names of the configuration's
fields; every field may be left out, and so may the whole file. Reading it is strict about types
(`enabled: no` is a string, not a boolean) and reports the first problem with the path of keys
and the place where it was met. Writing it lists every field, nulls included, so that reading
the text back gives the same configuration.
-/

namespace ProviderRouting

open ProviderRouting.Yaml

/-! ## Reading -/

def deletionTable : List (String × DeletionPolicy) := [("cascade", .cascade), ("flag", .flag)]

def readLogging (path : Path) : ReadM LoggingConfig :=
  readStruct path "struct LoggingConfig" {} ["enabled", "level", "log_file"] fun key p c =>
    if key == "enabled" then do pure { c with enabled := ← readBool p }
    else if key == "level" then do pure { c with level := ← readString p "a string" }
    else do pure { c with logFile := ← readOptional p fun p => readString p "path string" }

def readBootstrap (path : Path) : ReadM Bool :=
  readStruct path "struct BootstrapConfig" true ["enabled"] fun _ p _ => readBool p

def configKeys : List String :=
  ["database_path", "legacy_settings_path", "logging", "bootstrap", "provider_deletion"]

def readRouterConfig : ReadM RouterConfig :=
  readStruct .root "struct RouterConfig" {} configKeys fun key p c =>
    if key == "database_path" then do
      pure { c with databasePath := ← readOptional p fun p => readString p "path string" }
    else if key == "legacy_settings_path" then do
      pure { c with legacySettingsPath := ← readOptional p fun p => readString p "path string" }
    else if key == "logging" then do pure { c with logging := ← readLogging p }
    else if key == "bootstrap" then do pure { c with bootstrap := ← readBootstrap p }
    else do pure { c with deletion := ← readVariant p deletionTable }

/-- Reads a configuration file's text. The first document is read even when the stream breaks
off after it; a problem in the stream is reported only if the document read well, and a second
document is an error. -/
def RouterConfig.ofYaml (text : String) : Except LoadError RouterConfig :=
  match EventReader.ofText text with
  | .error p => .error (.malformed p)
  | .ok reader =>
    let (doc, reader) := Document.first reader
    match (readRouterConfig.run doc).run {} with
    | .error e => .error e
    | .ok (c, _) =>
      match doc.error with
      | some e => .error e
      | none => if reader.hasMore then .error .moreThanOneDocument else .ok c

/-! ## Writing -/

def optionalTree : Option String → Tree
  | some s => .str s
  | none => .null

def RouterConfig.toTree (c : RouterConfig) : Tree :=
  .mapping [
    ("database_path", optionalTree c.databasePath),
    ("legacy_settings_path", optionalTree c.legacySettingsPath),
    ("logging", .mapping [("enabled", .bool c.logging.enabled), ("level", .str c.logging.level),
      ("log_file", optionalTree c.logging.logFile)]),
    ("bootstrap", .mapping [("enabled", .bool c.bootstrap)]),
    ("provider_deletion", .str c.deletion.name)]

def RouterConfig.toYaml (c : RouterConfig) : String := c.toTree.render

end ProviderRouting
