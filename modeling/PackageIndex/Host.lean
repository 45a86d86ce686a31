import PackageIndex.Event
import PackageIndex.Path

/-!
# Hosts

What a program needs from the machine it runs on, as a record of operations. The program is the
same for every host; a host may be the real machine or a value that stands for one.
-/
namespace PackageIndex

/-- Why the machine refused an operation. That something was missing is told apart. -/
structure OsFault where
  isMissing : Bool
  text : String
  deriving DecidableEq, Repr

/-- Replacing a file goes by way of a temporary one, and may fail at either step. -/
inductive ReplaceStep where
  | temporary
  | replace
  deriving DecidableEq, Repr

def ReplaceStep.text : ReplaceStep → String
  | temporary => "create temporary file"
  | replace => "replace file"

structure Host (m : Type → Type) where
  workingDirectory : m Path
  read : Path → m (Except OsFault String)
  /-- Replaces a file as a whole: nobody sees it half written. -/
  replace : Path → String → m (Except (ReplaceStep × OsFault) Unit)
  overwrite : Path → String → m (Except OsFault Unit)
  isPresent : Path → m Bool
  isFile : Path → m Bool
  makeDirectories : Path → m (Except OsFault Unit)
  /-- Every file below a path; a fault comes with the path it was met at. -/
  walk : Path → m (Except (Path × OsFault) (List Path))
  /-- Makes a log file in a directory that is there. -/
  openLog : Path → m (Except OsFault Unit)
  log : Path → Event → m Unit
  print : String → m Unit
  complain : String → m Unit
  /-- Shows an event, as a value or as a line. -/
  trace : (asValue : Bool) → Event → m Unit

end PackageIndex
