/-!
# The environment

Variables that the program is started with, by name. Of two entries for one name the first one
counts, so a variable that is set keeps its value when entries are added behind it.
-/
namespace PackageIndex

structure Environment where
  entries : List (String × String)
  deriving DecidableEq, Repr

namespace Environment

def valueOf? (environment : Environment) (name : String) : Option String :=
  (environment.entries.find? fun entry => entry.1 = name).map Prod.snd

def contains (environment : Environment) (name : String) : Bool :=
  (environment.valueOf? name).isSome

/-- Sets a variable that has no value yet. -/
def addNew (environment : Environment) (name value : String) : Environment :=
  if environment.contains name then environment
  else ⟨environment.entries ++ [(name, value)]⟩

end Environment

end PackageIndex
