import PackageIndex.Host

/-!
# Disks

A tree of directories and files as a value, which refuses operations in the words of an operating
system. Paths are followed step by step from the root or from the working directory.
-/
namespace PackageIndex

inductive Entry where
  | directory
  | file (text : String)
  deriving DecidableEq, Repr

/-- Entries are known by the names on the way to them from the root, which is always there. -/
structure Disk where
  entries : List (List String × Entry)
  workingDirectory : List String
  deriving DecidableEq, Repr

namespace OsFault

def missing : OsFault := ⟨true, "No such file or directory (os error 2)"⟩
def busy : OsFault := ⟨false, "Device or resource busy (os error 16)"⟩
def alreadyThere : OsFault := ⟨false, "File exists (os error 17)"⟩
def noDirectory : OsFault := ⟨false, "Not a directory (os error 20)"⟩
def isDirectory : OsFault := ⟨false, "Is a directory (os error 21)"⟩
def invalid : OsFault := ⟨false, "Invalid argument (os error 22)"⟩
def tooLong : OsFault := ⟨false, "File name too long (os error 36)"⟩
def holdsNul : OsFault := ⟨false, "file name contained an unexpected NUL byte"⟩

end OsFault

namespace Disk

def entry? (disk : Disk) (names : List String) : Option Entry :=
  if names = [] then some .directory
  else (disk.entries.find? fun entry => entry.1 = names).map Prod.snd

/-- Takes the place of an entry or makes it the last one. -/
def putEntry (names : List String) (entry : Entry) :
    List (List String × Entry) → List (List String × Entry)
  | [] => [(names, entry)]
  | (other, old) :: rest =>
    if other = names then (names, entry) :: rest else (other, old) :: putEntry names entry rest

def put (disk : Disk) (names : List String) (entry : Entry) : Disk :=
  { disk with entries := putEntry names entry disk.entries }

/-! ## Following paths -/

/-- The most bytes of a name, and of a path. -/
def nameLimit : Nat := 255
def pathLimit : Nat := 4095

def holdsNul (path : Path) : Bool := '\x00' ∈ path.text.toList

/-- Some paths are refused whatever there is. -/
def checkPath (path : Path) : Except OsFault Unit :=
  if holdsNul path then .error .holdsNul
  else if path.text = "" then .error .missing
  else if pathLimit < path.text.utf8ByteSize then .error .tooLong
  else .ok ()

def checkName (name : String) : Except OsFault Unit :=
  if nameLimit < name.utf8ByteSize then .error .tooLong else .ok ()

abbrev Place := List String × Entry

def enter (disk : Disk) (place : Place) (piece : String) : Except OsFault Place :=
  match place.2 with
  | .file _ => .error .noDirectory
  | .directory =>
    if piece = "" ∨ piece = "." then .ok place
    else if piece = ".." then .ok (place.1.dropLast, .directory)
    else do
      checkName piece
      let names := place.1 ++ [piece]
      match disk.entry? names with
      | some entry => .ok (names, entry)
      | none => .error .missing

def follow (disk : Disk) (isAbsolute : Bool) (pieces : List String) : Except OsFault Place :=
  let start : Place := (if isAbsolute then [] else disk.workingDirectory, .directory)
  pieces.foldlM disk.enter start

def locate (disk : Disk) (path : Path) : Except OsFault Place := do
  checkPath path
  disk.follow path.isAbsolute path.pieces

/-- The end of a path that is to be made. -/
inductive Ending where
  /-- The path leads to a directory that is there in any case. -/
  | fixed
  /-- A name in a directory; a slash may follow it. -/
  | named (directory : List String) (name : String) (slash : Bool)

/-- Everything up to the last piece has to be there. -/
def ending (disk : Disk) (path : Path) : Except OsFault Ending := do
  checkPath path
  let reversed := path.pieces.reverse
  match reversed.dropWhile fun piece => piece = "" with
  | [] => pure .fixed
  | last :: before =>
    let (names, entry) ← disk.follow path.isAbsolute before.reverse
    match entry with
    | .file _ => .error .noDirectory
    | .directory =>
      if last = "." ∨ last = ".." then pure .fixed
      else
        checkName last
        pure (.named names last (reversed.head? = some ""))

/-! ## Operations -/

def isPresent (disk : Disk) (path : Path) : Bool := (disk.locate path).isOk

def isFile (disk : Disk) (path : Path) : Bool :=
  match disk.locate path with
  | .ok (_, .file _) => true
  | _ => false

def isDirectory (disk : Disk) (path : Path) : Bool :=
  match disk.locate path with
  | .ok (_, .directory) => true
  | _ => false

def read (disk : Disk) (path : Path) : Except OsFault String := do
  match ← disk.locate path with
  | (_, .file text) => pure text
  | (_, .directory) => .error .isDirectory

def makeDirectory (disk : Disk) (path : Path) : Except OsFault Disk := do
  match ← disk.ending path with
  | .fixed => .error .alreadyThere
  | .named directory name _ =>
    let names := directory ++ [name]
    match disk.entry? names with
    | some _ => .error .alreadyThere
    | none => pure (disk.put names .directory)

/-- Makes a directory; where something on the way to it is missing, makes that first. -/
def makeDirectoriesWithin : (bound : Nat) → Disk → Path → Except OsFault Disk
  | 0, _, _ => .error .missing
  | bound + 1, disk, path =>
    if path.text = "" then .ok disk
    else match disk.makeDirectory path with
    | .ok disk => .ok disk
    | .error fault =>
      if ¬ fault.isMissing then if disk.isDirectory path then .ok disk else .error fault
      else match path.parent? with
        | none => .error fault
        | some parent => do
          let disk ← makeDirectoriesWithin bound disk parent
          match disk.makeDirectory path with
          | .ok disk => pure disk
          | .error fault => if disk.isDirectory path then pure disk else .error fault

def makeDirectories (disk : Disk) (path : Path) : Except OsFault Disk :=
  makeDirectoriesWithin (path.text.length + 1) disk path

/-- The directory of a path, which is the working directory for a bare name. -/
def home (path : Path) : Path :=
  match path.parent? with
  | some parent => if parent.text = "" then ⟨"."⟩ else parent
  | none => ⟨"."⟩

/-- Puts a file in the place of another one, after a temporary file could be made beside it. -/
def replace (disk : Disk) (path : Path) (text : String) :
    Except (ReplaceStep × OsFault) Disk := do
  let refuse {α : Type} (step : ReplaceStep) (result : Except OsFault α) :
      Except (ReplaceStep × OsFault) α := result.mapError fun fault => (step, fault)
  match ← refuse .temporary (disk.locate (home path)) with
  | (_, .file _) => .error (.temporary, .noDirectory)
  | (_, .directory) =>
    if holdsNul path then .error (.replace, .invalid)
    else match ← refuse .replace (disk.ending path) with
    | .fixed => .error (.replace, .busy)
    | .named directory name slash =>
      let names := directory ++ [name]
      if slash then .error (.replace, .noDirectory)
      else match disk.entry? names with
        | some .directory => .error (.replace, .isDirectory)
        | _ => pure (disk.put names (.file text))

def overwrite (disk : Disk) (path : Path) (text : String) : Except OsFault Disk := do
  match ← disk.ending path with
  | .fixed => .error .isDirectory
  | .named directory name slash =>
    let names := directory ++ [name]
    if slash then .error .isDirectory
    else match disk.entry? names with
      | some .directory => .error .isDirectory
      | _ => pure (disk.put names (.file text))

/-- What is left of a list of names after those it has to begin with. -/
def inside? : (start names : List String) → Option (List String)
  | [], names => some names
  | _ :: _, [] => none
  | a :: start, b :: names => if a = b then inside? start names else none

def walk (disk : Disk) (path : Path) : Except (Path × OsFault) (List Path) :=
  match disk.locate path with
  | .error fault => .error (path, fault)
  | .ok (_, .file _) => .ok [path]
  | .ok (start, .directory) => .ok (disk.entries.filterMap fun (names, entry) =>
    match entry, inside? start names with
    | .file _, some below => some (below.foldl Path.join path)
    | _, _ => none)

/-- The files below a directory, by their names from there. -/
def filesBelow (disk : Disk) (start : List String) : List (List String × String) :=
  disk.entries.filterMap fun (names, entry) =>
    match entry, inside? start names with
    | .file text, some below => some (below, text)
    | _, _ => none

end Disk

end PackageIndex
