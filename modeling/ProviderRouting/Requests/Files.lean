import ProviderRouting.Requests.Session
import ProviderRouting.Config.Basic
import ProviderRouting.Store.Disk
import ProviderRouting.Service.Open

/-!
# Requests on stored files

`migrate` imports a legacy settings file into a fresh store some number of times and shows the
tables. `open` runs the service the way an application does: over one database and one legacy
settings file, reopened once per entry of `opens`, each time importing the legacy file (which
happens at most once in the database's life) and loading, and then running that entry's steps.
Labels run on across entries.
-/

namespace ProviderRouting.Requests

open ProviderRouting.Json

def storedRulesValue (st : Store) : Value :=
  match st.allRules with
  | .ok rs => rulesValue rs
  | .error e => storeReply e

def importRuns (file : Option String) : Nat → Store → List Value × Store
  | 0, st => ([], st)
  | n + 1, st =>
    let (result, st') := st.importLegacy (.ofText file) clockStart
    let answer := match importAnswer result with
      | .ok v => okReply v
      | .error e => e
    let (rest, st'') := importRuns file n st'
    (answer :: rest, st'')

def migrateRequest (req : Value) : Reply Value := do
  let seeds ← match req.get? "seed" with
    | none | some .null => pure []
    | some _ => ruleArgs (← arrMember req "seed" "rules must be an array")
  let st ← seedStore {} seeds
  let times := match req.get? "times" with
    | some (.num (.nat n)) => n
    | _ => 1
  let (runs, st) := importRuns (legacyFile (req.get? "legacy")) times st
  pure (Value.record [("runs", .arr runs), ("rules", storedRulesValue st),
    ("providers", .arr (st.listProviders.map providerValue))])

/-- A configured path: null or left out means none; anything else must be a string naming a
relative path that is not empty. -/
def pathMember (config : Value) (name : String) : Reply (Option String) :=
  let refused := badRequest (name ++ " must be a non-empty relative path or null")
  match config.get? name with
  | none | some .null => pure none
  | some (.str p) => if p.isEmpty || p.startsWith "/" then throw refused else pure (some p)
  | some _ => throw refused

/-- The configuration an opening reads: whether default rules are made and the deletion policy,
each decoded when given (a null too), and then the two paths. A configuration that is no object
means the defaults. -/
def openConfig (config : Value) : Reply RouterConfig := do
  let bootstrap ← match config.get? "bootstrap" with
    | none => pure true
    | some v => decoded (decodeBootstrap v)
  let deletion ← match config.get? "provider_deletion" with
    | none => pure .cascade
    | some v => decoded (DeletionPolicy.decode v)
  let databasePath ← pathMember config "database_path"
  let legacySettingsPath ← pathMember config "legacy_settings_path"
  let config : RouterConfig := {
    databasePath := databasePath
    legacySettingsPath := legacySettingsPath
    bootstrap := bootstrap
    deletion := deletion }
  pure config

def defaultLegacyPath : String := "settings.json"

/-- Opens the service once (`openService`) and runs the steps, which must be a list. A refused
opening answers its store error; an overflow while loading ends the request. -/
def openOnce (config : RouterConfig) (legacyPath : Option String) (d : Disk) (s : Service)
    (steps : Value) (ls : Labels) : Reply (Value × Disk × Service × Labels) :=
  match openService config legacyPath d s with
  | (.refused e, d, s) =>
    let (ls', load) := ls.relabel (routerReply (.storage e))
    pure (Value.record [("load", load)], d, s, ls')
  | (.loaded result, d, s) => do
    let steps : Reply (List Value) := match steps with
      | .arr steps => pure steps
      | _ => throw (badRequest "steps must be an array")
    let (fields, s', ls') ← afterLoad false result s steps ls
    pure (Value.record fields, d, s', ls')

def openAll (config : RouterConfig) (legacyPath : Option String) :
    Disk → Service → Labels → List Value → Reply (List Value × Labels)
  | _, _, ls, [] => pure ([], ls)
  | d, s, ls, steps :: rest => do
    let (answer, d', s', ls') ← openOnce config legacyPath d s steps ls
    let (answers, ls'') ← openAll config legacyPath d' s' ls' rest
    pure (answer :: answers, ls'')

/-- `open {config?, legacy?, providers?, opens?}`. A legacy file given is written first; a
path where no file can be written ends the request. -/
def openRequest (req : Value) : Reply Value := do
  let config ← openConfig ((req.get? "config").getD .null)
  let providers ← match req.get? "providers" with
    | none | some .null => pure []
    | some _ => providersMember req
  let opens ← match req.get? "opens" with
    | none | some .null => pure [.arr []]
    | some _ => arrMember req "opens" "opens must be an array"
  let file := legacyFile (req.get? "legacy")
  let legacyPath := match config.legacySettingsPath with
    | some p => some p
    | none => if file.isSome then some defaultLegacyPath else none
  let d ← match file, legacyPath with
    | some text, some p =>
      match ({} : Disk).write p text with
      | .ok d => pure d
      | .error e => throw (errorReply "panic" ("write legacy file: " ++ e.detail))
    | _, _ => pure {}
  let st := providers.foldl Store.putProvider {}
  let s : Service := { store := st, registry := .stored }
  let (answers, ls) ← openAll config legacyPath d s [] opens
  pure (ls.replaceKnown (Value.record [("opens", .arr answers)]))

end ProviderRouting.Requests
