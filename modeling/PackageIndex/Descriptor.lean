import PackageIndex.Fault
import PackageIndex.Json.Decode
import PackageIndex.RelativePath

/-!
# Package descriptors

The file `package.json` at the root of a package tells where its autoloader and its routing file
are. Everything else in it is kept and never looked at.
-/
namespace PackageIndex

structure Descriptor where
  autoload : Option RelativePath
  routing : Option RelativePath
  extra : List (String × Json.Value)
  deriving DecidableEq, Repr

namespace Descriptor

open Json

def fileName : String := "package.json"

def decodePath (draft : Draft) : Decoded RelativePath := do
  let text ← draft.toText
  (RelativePath.parse text).mapError fun fault => .rejected fault.message

structure Fields where
  autoload : Option (Option RelativePath)
  routing : Option (Option RelativePath)
  /-- The members with other names, the latest first. -/
  others : List (String × Value)

def Fields.take (fields : Fields) (name : String) (value : Draft) : Decoded Fields :=
  match name with
  | "autoload" => do
    let autoload ← once name fields.autoload fun _ => value.toOption decodePath
    pure { fields with autoload }
  | "routing" => do
    let routing ← once name fields.routing fun _ => value.toOption decodePath
    pure { fields with routing }
  | _ => do
    let value ← ofText (value.value (mostLevels - 1))
    pure { fields with others := (name, value.sorted) :: fields.others }

def decode : Draft → Decoded Descriptor
  | .object members => do
    let fields ← members.fold Fields.take ⟨none, none, []⟩
    pure ⟨fields.autoload.join, fields.routing.join, Value.sortMembers fields.others.reverse⟩
  | draft => mismatch "struct PackageConfig" draft

def ofJson (text : String) : Except Fault Descriptor :=
  (decodeText decode text).mapError fun fault => .undecodable fileName fault.message

end Descriptor

end PackageIndex
