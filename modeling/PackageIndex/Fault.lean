/-!
# Faults of an input

What can be wrong with a name, a path, an address or a document, said once as a cause. The wording
is `Fault.message`; `Fault.suggestions` tells the reader what to try.
-/
namespace PackageIndex

inductive Fault where
  | badIdentifier (name : String)
  | badQualifiedName (name reason : String)
  | badPackageName (name : String)
  | malformedControllerRef (reference reason : String)
  | badRelativePath (path reason : String)
  | emptyAddress
  | duplicateRouteVariable (name : String)
  | undecodable (document reason : String)
  | unencodable (document reason : String)
  deriving DecidableEq, Repr

namespace Fault

def message : Fault → String
  | badIdentifier name => s!"'{name}' is not a valid identifier: expected [A-Za-z_][A-Za-z0-9_]*"
  | badQualifiedName name reason => s!"'{name}' is not a valid qualified name: {reason}"
  | badPackageName name => s!"'{name}' is not a valid package name"
  | malformedControllerRef reference reason =>
    s!"'{reference}' is not a controller reference: {reason}"
  | badRelativePath path reason => s!"'{path}' is not a package-relative path: {reason}"
  | emptyAddress => "address is empty"
  | duplicateRouteVariable name => s!"duplicate variable in the address: {name}"
  | undecodable document reason => s!"cannot decode {document}: {reason}"
  | unencodable document reason => s!"cannot encode {document}: {reason}"

def suggestions : Fault → List String
  | badIdentifier _ | badPackageName _ =>
    ["Identifiers start with a letter or underscore",
     "Only letters, digits and underscores may follow"]
  | badQualifiedName name _ =>
    [s!"Check every '\\'-separated segment of '{name}'",
     "Use '/' or '\\' between namespace segments, e.g. controllers/Users"]
  | malformedControllerRef _ _ =>
    ["Write controllers as Class@method, e.g. controllers\\Users@index",
     "Exactly one '@' is allowed"]
  | emptyAddress => ["Give the route at least one segment, e.g. /users"]
  | duplicateRouteVariable name =>
    [s!"Rename one of the ':{name}' segments",
     "Variable names must be unique within a single address"]
  | badRelativePath _ _ | undecodable _ _ | unencodable _ _ =>
    ["See documentation for more details"]

end Fault

end PackageIndex
