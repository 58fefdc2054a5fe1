import ProviderRouting.Service.Rules
import ProviderRouting.Store.Disk
import ProviderRouting.Config.Basic

/-!
# Opening a service

An application opens the service over the files under its home folder. It opens the database:
it makes the folders the database lies in, and an empty database where nothing stands. When a
path to a legacy settings file is given, it imports that file, which happens at most once in the
database's life. Then it loads the rules with the configured bootstrap switch and deletion
policy. Every opening starts with an empty cache and with no store call set to fail.

An opening is refused before anything is loaded when the database cannot be opened or when
importing the settings file fails. Otherwise it ends as its load does.
-/

namespace ProviderRouting

def defaultDatabasePath : String := ".routecast/routecast.db"

/-- How an opening ended: refused before the load, or loaded with the load's outcome. -/
inductive Opening where
  | refused (e : StoreError)
  | loaded (result : Except Failure Unit)

def Store.importFrom (st : Store) (legacyPath : Option String) (d : Disk) (stamp : Int) :
    Except StoreError Nat × Store :=
  match legacyPath with
  | none => (.ok 0, st)
  | some p => st.importLegacy (d.settingsAt p) stamp

/-- Opens the service over a disk, importing the legacy settings file at `legacyPath` if one is
given. -/
def openService (config : RouterConfig) (legacyPath : Option String) (d : Disk) (s : Service) :
    Opening × Disk × Service :=
  let s := { s with cache := [], autoBootstrap := config.bootstrap, faults := {} }
  match d.openDatabase (config.databasePath.getD defaultDatabasePath) with
  | .error e => (.refused e, d, s)
  | .ok d =>
    match s.store.importFrom legacyPath d (clockInstant s.clock).secs with
    | (.error e, _) => (.refused e, d, s)
    | (.ok _, st) =>
      let (result, s) := { s with store := st }.load
      (.loaded result, d, { s with policy := config.deletion })

end ProviderRouting
