import PackageIndex.Fault
import PackageIndex.Path

/-!
# Failures of an operation

Why an operation on a package did not come to its end: an input was at fault, a file was not there
or held something else, or the store refused. As for faults the cause is data and the wording is a
function of it.
-/
namespace PackageIndex

inductive Failure where
  | input (fault : Fault)
  | notFound (path : Path)
  | corruptManifest (path : Path) (reason : String)
  | corruptRouteTable (path : Path) (reason : String)
  | unparsable (path : Path) (reason : String)
  | controllerNotExist (reference : String)
  | classNotDeclared (className : String) (path : Path)
  | alreadyRegistered (className file : String)
  | packageNotExist (name : String)
  | badDescriptor (name reason : String)
  | noAutoloader (name : String)
  | noRouting (name : String)
  | storage (path : Path) (reason : String)
  | lockPoisoned
  deriving DecidableEq, Repr

inductive FailureKind where
  | validation
  | notFound
  | corrupt
  | configuration
  | internal
  deriving DecidableEq, Repr

namespace Failure

def message : Failure → String
  | input fault => fault.message
  | notFound path => s!"File not found: {path.text}"
  | corruptManifest path reason => s!"Corrupt autoloader manifest {path.text}: {reason}"
  | corruptRouteTable path reason => s!"Corrupt routing file {path.text}: {reason}"
  | unparsable path reason => s!"Cannot parse {path.text}: {reason}"
  | controllerNotExist reference => s!"Controller does not exist: {reference}"
  | classNotDeclared className path => s!"Class {className} is not declared in {path.text}"
  | alreadyRegistered className file => s!"Class {className} is already registered in {file}"
  | packageNotExist name => s!"Package does not exist: {name}"
  | badDescriptor name reason => s!"Invalid package configuration for {name}: {reason}"
  | noAutoloader name => s!"Package {name} has no autoloader"
  | noRouting name => s!"Package {name} has no routing file"
  | storage path reason => s!"Filesystem error at {path.text}: {reason}"
  | lockPoisoned => "Filesystem lock poisoned"

def suggestions : Failure → List String
  | input fault => fault.suggestions
  | notFound path =>
    [s!"Expected a file at {path.text}", "Run the matching init command to create it"]
  | corruptManifest path _ =>
    [s!"Fix the JSON in {path.text} by hand",
     "Or regenerate it: rigger autoload rebuild <package>"]
  | corruptRouteTable path _ =>
    [s!"Fix the JSON in {path.text}; it must be an array of routes"]
  | unparsable _ _ => ["Fix the syntax error and try again"]
  | controllerNotExist reference =>
    [s!"Add the method named in '{reference}' to its class",
     "Check that the class is registered: rigger autoload find <package> <class>"]
  | classNotDeclared _ _ =>
    ["The autoloader is out of date", "Try: rigger autoload rebuild <package>"]
  | alreadyRegistered _ file =>
    [s!"Remove the class from {file} first", "Or choose a different class name"]
  | packageNotExist name =>
    [s!"Create the directory for package '{name}'",
     "Check --packages-dir or workspace.packages_dir"]
  | badDescriptor _ _ => ["Each package needs a package.json object at its root"]
  | noAutoloader _ => ["Add \"autoload\": \"autoloader.json\" to package.json"]
  | noRouting _ => ["Add \"routing\": \"routing.json\" to package.json"]
  | storage path _ =>
    [s!"Failed to access: {path.text}", "Check that you have write permissions"]
  | lockPoisoned => ["Check the error details above"]

def kind : Failure → FailureKind
  | input (.undecodable _ _) | input (.unencodable _ _) => .corrupt
  | input _ => .validation
  | notFound _ | controllerNotExist _ | classNotDeclared _ _ | packageNotExist _ => .notFound
  | corruptManifest _ _ | corruptRouteTable _ _ | unparsable _ _ => .corrupt
  | badDescriptor _ _ | noAutoloader _ | noRouting _ => .configuration
  | alreadyRegistered _ _ => .validation
  | storage _ _ | lockPoisoned => .internal

end Failure

end PackageIndex
