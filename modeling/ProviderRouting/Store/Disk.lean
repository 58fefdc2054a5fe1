import ProviderRouting.Store.Legacy

/-!
# The files under the home folder

A service that is opened keeps its database in a file under the home folder, and may import a
legacy settings file from there. The home folder starts empty, and only three kinds of thing are
ever made in it: the legacy settings file, the folders the database lies in, and the database.
`Disk` keeps what has been made, each place by the steps that lead to it from the home folder. A
step `..` at the front leads above the home folder, where every folder is taken to be there and
nothing else is.

Two ways of reading a path meet here.

* The system follows a path step by step (`Disk.follow`): every step but the last must lead to
  a folder that is there, `.` stays and `..` goes up. A path that ends in `/` names a folder, so
  it cannot be written as a file, and a file is not found under it.
* The database library reads the path by its text alone (`lexicalPlace`): `.` is dropped and
  `..` takes back the step before it, so `a/../x.db` names `x.db` whether or not `a` is there.

The folders of a database are made the way the standard library makes a folder with all the
folders above it (`Disk.makeFolders`), for the path with its last part taken off, where empty
parts and `.` do not count as parts.
-/

namespace ProviderRouting

/-- What stands at a place under the home folder. -/
inductive Node where
  | folder
  | text (content : String)
  | database
  deriving Repr, DecidableEq

abbrev Place := List String

def Place.up (p : Place) : Place :=
  match p.getLast? with
  | none => [".."]
  | some ".." => p ++ [".."]
  | some _ => p.dropLast

def Place.step (p : Place) (s : String) : Place :=
  if s == "." then p
  else if s == ".." then p.up
  else p ++ [s]

/-- Why the system refused to do something with a path. -/
inductive OsError where
  | notFound
  | notADirectory
  | isADirectory
  | alreadyExists
  deriving Repr, DecidableEq

def OsError.code : OsError → Nat
  | .notFound => 2
  | .alreadyExists => 17
  | .notADirectory => 20
  | .isADirectory => 21

def OsError.kindName : OsError → String
  | .notFound => "NotFound"
  | .alreadyExists => "AlreadyExists"
  | .notADirectory => "NotADirectory"
  | .isADirectory => "IsADirectory"

def OsError.description : OsError → String
  | .notFound => "No such file or directory"
  | .alreadyExists => "File exists"
  | .notADirectory => "Not a directory"
  | .isADirectory => "Is a directory"

def OsError.display (e : OsError) : String :=
  e.description ++ " (os error " ++ toString e.code ++ ")"

def OsError.detail (e : OsError) : String :=
  "Os \x7b code: " ++ toString e.code ++ ", kind: " ++ e.kindName ++ ", message: \"" ++
    e.description ++ "\" \x7d"

def stepsOf (path : String) : List String :=
  ((path.toList.splitOn '/').filter (· ≠ [])).map String.ofList

def namesFolder (path : String) : Bool := path.toList.getLast? == some '/'

def lexicalPlace (path : String) : Place := (stepsOf path).foldl Place.step []

/-- The steps to the folder a file lies in, as the standard library takes the last part off a
path: parts are the steps other than `.`, and the last part of a path with none is the home
folder itself. -/
def folderSteps (path : String) : List String :=
  match (stepsOf path).filter (· != ".") with
  | [] => [".."]
  | parts => parts.dropLast

/-- The places made under the home folder, with what stands at each. -/
structure Disk where
  made : List (Place × Node) := []
  deriving Repr

/-- What stands at a place: above the home folder only folders, and the home folder itself is
one. -/
def Disk.node (d : Disk) (p : Place) : Option Node :=
  if p.all (· == "..") then some .folder
  else (d.made.find? (·.1 == p)).map (·.2)

def Disk.put (d : Disk) (p : Place) (n : Node) : Disk :=
  { made := (d.made.filter (·.1 != p)) ++ [(p, n)] }

/-- Follows steps from a folder as the system does: every step but the last must lead to a
folder that is there; the last is only taken. -/
def Disk.follow (d : Disk) (here : Place) : List String → Except OsError Place
  | [] => .ok here
  | s :: rest =>
    let next := here.step s
    if rest.isEmpty then .ok next
    else
      match d.node next with
      | some .folder => d.follow next rest
      | some _ => .error .notADirectory
      | none => .error .notFound

def Disk.find (d : Disk) (path : String) : Option Node :=
  match d.follow [] (stepsOf path) with
  | .error _ => none
  | .ok p =>
    match d.node p with
    | some .folder => some .folder
    | some n => if namesFolder path then none else some n
    | none => none

def Disk.write (d : Disk) (path text : String) : Except OsError Disk := do
  let p ← d.follow [] (stepsOf path)
  match d.node p with
  | some .folder => throw .isADirectory
  | some _ => if namesFolder path then throw .notADirectory else pure (d.put p (.text text))
  | none => if namesFolder path then throw .isADirectory else pure (d.put p (.text text))

def Disk.isFolder (d : Disk) (steps : List String) : Bool :=
  match d.follow [] steps with
  | .ok p => d.node p == some .folder
  | .error _ => false

def Disk.makeFolder (d : Disk) (steps : List String) : Except OsError Disk := do
  let p ← d.follow [] steps
  match d.node p with
  | some _ => throw .alreadyExists
  | none => pure (d.put p .folder)

/-- Makes a folder with every folder above it that is missing, given the steps last first: the
folder is made, and when one above it is missing those are made first and the folder again; a
folder found already there is no failure. -/
def Disk.makeFoldersBack (d : Disk) : List String → Except OsError Disk
  | [] => .ok d
  | last :: above =>
    let steps := (last :: above).reverse
    match d.makeFolder steps with
    | .ok d' => .ok d'
    | .error .notFound => do
      let d' ← d.makeFoldersBack above
      match d'.makeFolder steps with
      | .ok d'' => .ok d''
      | .error e => if d'.isFolder steps then .ok d' else .error e
    | .error e => if d.isFolder steps then .ok d else .error e

def Disk.makeFolders (d : Disk) (steps : List String) : Except OsError Disk :=
  d.makeFoldersBack steps.reverse

def cannotOpenMessage (path : String) : String :=
  "unable to open database file: ~/" ++ path

/-- Opens the database at a place, making an empty one where nothing stands. The folders on the
way must be there, and what stands at the place must be a database or an empty file. -/
def Disk.openDatabaseAt (d : Disk) (p : Place) (path : String) : Except StoreError Disk :=
  if ((List.range p.length).map p.take).all (fun q => d.node q == some .folder) then
    match d.node p with
    | some .folder => .error (.database (cannotOpenMessage path))
    | some .database => .ok d
    | some (.text t) =>
      if t.isEmpty then .ok (d.put p .database) else .error (.database "file is not a database")
    | none => .ok (d.put p .database)
  else .error (.database (cannotOpenMessage path))

def Disk.openDatabase (d : Disk) (path : String) : Except StoreError Disk := do
  let d ← (d.makeFolders (folderSteps path)).mapError fun e => StoreError.io e.display
  d.openDatabaseAt (lexicalPlace path) path

/-- What stands at the path of the settings file, as the import reads it: a folder or a
database file does not read as text. -/
def Disk.settingsAt (d : Disk) (path : String) : SettingsFile :=
  match d.find path with
  | none => .missing
  | some .folder => .unreadable (.io OsError.isADirectory.display)
  | some .database => .unreadable (.io "stream did not contain valid UTF-8")
  | some (.text t) => .text t

example : stepsOf "a//b/./" = ["a", "b", "."] ∧ lexicalPlace "a/../x.db" = ["x.db"] ∧
    folderSteps "x.db/" = [] ∧ folderSteps "./" = [".."] := by
  decide +kernel

example : (({} : Disk).write "a/../s.json" "[]").toOption.isNone ∧
    (({} : Disk).write "s.json/" "[]").toOption.isNone ∧
    (({} : Disk).write "./s.json" "[]").toOption.isSome := by
  decide +kernel

end ProviderRouting
