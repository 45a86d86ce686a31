import PackageIndex.Json.Value

/-!
# Events

What is told along the way about the work that is done. An event has a level, the part of the
program that tells it, a message and named values.
-/
namespace PackageIndex

/-- The levels stand in the order of their weight, the weightiest first. -/
inductive Level where
  | error
  | warn
  | info
  | debug
  | trace
  deriving DecidableEq, Repr

namespace Level

def text : Level → String
  | error => "ERROR"
  | warn => "WARN"
  | info => "INFO"
  | debug => "DEBUG"
  | trace => "TRACE"

def detail : Level → Nat
  | error => 1
  | warn => 2
  | info => 3
  | debug => 4
  | trace => 5

end Level

structure Event where
  level : Level
  target : String
  message : String
  fields : List (String × Json.Value)
  deriving DecidableEq, Repr

end PackageIndex
