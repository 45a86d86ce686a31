import PackageIndex.Environment
import PackageIndex.Json.Decode
import PackageIndex.Path
import PackageIndex.Setting.Layer
import PackageIndex.Toml.Document
import PackageIndex.Toml.Quoted

/-!
# Settings

What a person can set once for all commands. The settings are what is built in, under a settings
file, under the environment; whoever is on top counts, entry by entry.
-/
namespace PackageIndex

structure Settings where
  packagesDirectory : String
  noColor : Bool
  format : String
  logFile : Option String
  deriving DecidableEq, Repr

namespace Settings

def builtIn : Settings := ⟨"packages", false, "auto", none⟩

/-! ## Reading -/

/-- The fields of a section, which may be given by name or, as a list, in order. -/
def fields? (names : List String) : Setting → Option Setting.Entries
  | .table entries => some entries
  | .list items => some (names.zip items)
  | _ => none

def logFile? (logging : Setting) : Option (Option String) := do
  let fields ← fields? ["file"] logging
  match Setting.find? fields "file" with
  | none | some .absent => some none
  | some file => file.toText?.map some

/-- What the entries say, if they are of the right kinds. -/
def ofEntries? (entries : Setting.Entries) : Option Settings := do
  let workspace ← fields? ["packages_dir"] (← Setting.find? entries "workspace")
  let packagesDirectory ← (← Setting.find? workspace "packages_dir").toText?
  let output ← fields? ["no_color", "format"] (← Setting.find? entries "output")
  let noColor ← (← Setting.find? output "no_color").toFlag?
  let format ← (← Setting.find? output "format").toText?
  let logFile ← match Setting.find? entries "logging" with
    | none => some none
    | some logging => logFile? logging
  some ⟨packagesDirectory, noColor, format, logFile⟩

/-- The layer under all others. -/
def toEntries (settings : Settings) : Setting.Entries :=
  [("workspace", .table [("packages_dir", .text settings.packagesDirectory)]),
   ("output", .table [("no_color", .flag settings.noColor), ("format", .text settings.format)])]

/-! ## The environment -/

/-- What the names of variables that hold settings begin with, in any case of letters. -/
def variableStart : String := "rigger_"

/-- Two underscores lead from a section into it. -/
def dotted : List Char → List Char
  | '_' :: '_' :: rest => '.' :: dotted rest
  | c :: rest => c :: dotted rest
  | [] => []

/-- The entry that a variable stands for. -/
def ofVariable? (name value : String) : Option (String × Setting) :=
  (Text.dropStart? variableStart.toList (Text.lowered name).toList).map fun rest =>
    (String.ofList (dotted rest), .text value)

def ofEnvironment (environment : Environment) : Setting.Entries :=
  environment.entries.filterMap fun (name, value) => ofVariable? name value

/-! ## Settings files -/

inductive FileFormat where
  | toml
  | json
  deriving DecidableEq, Repr

namespace FileFormat

def all : List FileFormat := [toml, json]

def extension : FileFormat → String
  | toml => "toml"
  | json => "json"

def ofPath? (path : Path) : Option FileFormat :=
  all.find? fun format => path.extension? = some format.extension

end FileFormat

/-- The mark that a file may begin with to say how it is encoded. -/
def byteOrderMark : Char := '\ufeff'

def dropMark (text : String) : String :=
  match text.toList with
  | first :: rest => if first = byteOrderMark then String.ofList rest else text
  | [] => text

/-- The entries that a file holds. -/
def ofDocument? (format : FileFormat) (text : String) : Option Setting.Entries :=
  let text := dropMark text
  match format with
  | .toml => Toml.read? text
  | .json =>
    match Json.decodeText Json.Draft.toValue text with
    | .ok (.object members) => some (Setting.ofMembers members)
    | _ => none

/-- What settings files may be called when a path itself is none. -/
def siblings (path : Path) : List (Path × FileFormat) :=
  FileFormat.all.map fun format => (⟨path.text ++ "." ++ format.extension⟩, format)

/-- The settings of a file and the environment, over the built-in ones. -/
def load? (file : Setting.Entries) (environment : Environment) : Option Settings :=
  ofEntries? (Setting.overlay [builtIn.toEntries, file, ofEnvironment environment])

/-- The directory that a person keeps settings in. -/
def directory? (environment : Environment) : Option Path :=
  match environment.valueOf? "XDG_CONFIG_HOME", environment.valueOf? "HOME" with
  | some directory, home =>
    if (Path.mk directory).isAbsolute then some ⟨directory⟩ else ofHome home
  | none, home => ofHome home
where
  ofHome : Option String → Option Path
    | some home => if home = "" then none else some ((Path.mk home).join ".config")
    | none => none

/-- Where settings are looked for unless a place is given. -/
def usualPath (environment : Environment) : Path :=
  match directory? environment with
  | some directory => (directory.join "rigger").join "config.toml"
  | none => ⟨".rigger.toml"⟩

/-! ## Showing -/

/-- The text of a setting, by its dotted key. -/
def text? (settings : Settings) (key : String) : Option String :=
  match key with
  | "workspace.packages_dir" => some settings.packagesDirectory
  | "output.no_color" => some (if settings.noColor then "true" else "false")
  | "output.format" => some settings.format
  | "logging.file" => some (settings.logFile.getD "")
  | _ => none

def toToml (settings : Settings) : String :=
  "[workspace]\n"
    ++ "packages_dir = " ++ Toml.quoted settings.packagesDirectory ++ "\n"
    ++ "\n[output]\n"
    ++ "no_color = " ++ (if settings.noColor then "true" else "false") ++ "\n"
    ++ "format = " ++ Toml.quoted settings.format ++ "\n"
    ++ "\n[logging]\n"
    ++ match settings.logFile with
      | some file => "file = " ++ Toml.quoted file ++ "\n"
      | none => ""

def toJson (settings : Settings) : Json.Value :=
  .object [
    ("workspace", .object [("packages_dir", .string settings.packagesDirectory)]),
    ("output", .object [("no_color", .bool settings.noColor), ("format", .string settings.format)]),
    ("logging", .object (settings.logFile.toList.map fun file => ("file", .string file)))]

end Settings

end PackageIndex
