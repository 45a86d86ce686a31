import PackageIndex.CommandLine.Program

/-!
# The real machine

Connects the program with the files, the environment and the terminal of the machine it runs on.
Nothing is decided here.
-/
namespace PackageIndex.Machine

/-- How the system words and numbers a refusal. -/
def osFault : IO.Error → OsFault
  | .noFileOrDirectory _ code details => ⟨true, worded code details⟩
  | .noSuchThing _ code details => ⟨true, worded code details⟩
  | .alreadyExists _ code details | .invalidArgument _ code details
  | .permissionDenied _ code details | .resourceExhausted _ code details
  | .inappropriateType _ code details | .interrupted _ code details
  | .otherError code details | .resourceBusy code details | .resourceVanished code details
  | .unsupportedOperation code details | .hardwareFault code details
  | .unsatisfiedConstraints code details | .illegalOperation code details
  | .protocolError code details | .timeExpired code details => ⟨false, worded code details⟩
  | .unexpectedEof => ⟨false, "unexpected end of file"⟩
  | .userError text => ⟨false, text⟩
where
  worded (code : UInt32) (details : String) : String :=
    s!"{details.capitalize} (os error {code})"

/-- The outcome of an operation that the system may refuse. -/
def attempt {α : Type} (act : IO α) : IO (Except OsFault α) := do
  match ← act.toBaseIO with
  | .ok a => pure (.ok a)
  | .error fault => pure (.error (osFault fault))

def holds (act : IO Bool) : IO Bool := do
  match ← act.toBaseIO with
  | .ok b => pure b
  | .error _ => pure false

def isPresent (path : Path) : IO Bool :=
  holds do
    let _ ← IO.FS.realPath path.text
    pure true

def hasType (path : Path) (type : IO.FS.FileType) : IO Bool :=
  holds do
    let place ← IO.FS.realPath path.text
    let data ← place.metadata
    pure (data.type == type)

/-- The directory for temporary files that are to replace a file. -/
def directoryOf (path : Path) : Path :=
  match path.parent? with
  | some parent => if parent.text = "" then ⟨"."⟩ else parent
  | none => ⟨"."⟩

def replace (path : Path) (text : String) : IO (Except (ReplaceStep × OsFault) Unit) := do
  let number ← IO.rand 0 999999999999
  let temporary := (directoryOf path).join s!".tmp{number}"
  match ← attempt (IO.FS.writeFile temporary.text text) with
  | .error fault => pure (.error (.temporary, fault))
  | .ok () =>
    match ← attempt (IO.FS.rename temporary.text path.text) with
    | .ok () => pure (.ok ())
    | .error fault => do
      let _ ← attempt (IO.FS.removeFile temporary.text)
      pure (.error (.replace, fault))

def makeDirectory (path : Path) : IO (Except OsFault Unit) := do
  match ← attempt (IO.FS.createDir path.text) with
  | .ok () => pure (.ok ())
  | .error fault =>
    if ← hasType path .dir then pure (.ok ()) else pure (.error fault)

/-- Makes a directory; where something on the way to it is missing, makes that first. -/
def makeDirectories : (bound : Nat) → Path → IO (Except OsFault Unit)
  | 0, path => makeDirectory path
  | bound + 1, path => do
    if path.text = "" then pure (.ok ())
    else match ← makeDirectory path with
    | .ok () => pure (.ok ())
    | .error fault =>
      match fault.isMissing, path.parent? with
      | true, some parent =>
        match ← makeDirectories bound parent with
        | .ok () => makeDirectory path
        | .error fault => pure (.error fault)
      | _, _ => pure (.error fault)

/-- No path of a system has as many steps. -/
def deepest : Nat := 4096

mutual
/-- Every file below a path. Links are not followed. -/
def walk (bound : Nat) (path : Path) : IO (Except (Path × OsFault) (List Path)) := do
  match bound with
  | 0 => pure (.ok [])
  | bound + 1 =>
    match ← attempt (IO.FS.realPath path.text) with
    | .error fault => pure (.error (path, fault))
    | .ok place =>
      if ← hasType path .dir then
        match ← attempt place.readDir with
        | .error fault => pure (.error (path, fault))
        | .ok entries => walkAll bound path entries.toList
      else pure (.ok [path])
def walkAll (bound : Nat) (path : Path) :
    List IO.FS.DirEntry → IO (Except (Path × OsFault) (List Path))
  | [] => pure (.ok [])
  | entry :: rest => do
    let isLink ← holds do
      let data ← entry.path.symlinkMetadata
      pure (data.type == .symlink)
    let first ← if isLink then pure (.ok []) else walk bound (path.join entry.fileName)
    match first with
    | .error fault => pure (.error fault)
    | .ok files =>
      match ← walkAll bound path rest with
      | .error fault => pure (.error fault)
      | .ok others => pure (.ok (files ++ others))
end

def appendText (path : Path) (text : String) : IO Unit := do
  let handle ← IO.FS.Handle.mk path.text .append
  handle.putStr text

/-- An event on a line, with its named values behind the message. -/
def eventLine (event : Event) : String :=
  event.level.text ++ " " ++ event.target ++ ": " ++ event.message
    ++ String.join (event.fields.map fun (name, value) => s!" {name}=" ++ fieldText value) ++ "\n"
where
  fieldText : Json.Value → String
    | .string s => s
    | value => value.shown

/-- A value without line breaks: those of its strings are escaped. -/
def valueLine (value : Json.Value) : String :=
  String.ofList ((value.write 0 0).filter fun c => c ≠ '\n') ++ "\n"

def host : Host IO where
  workingDirectory := do
    let directory ← IO.currentDir
    pure ⟨directory.toString⟩
  read path := attempt (IO.FS.readFile path.text)
  replace := replace
  overwrite path text := attempt (IO.FS.writeFile path.text text)
  isPresent := isPresent
  isFile path := hasType path .file
  makeDirectories := makeDirectories deepest
  walk := walk deepest
  openLog path := attempt (appendText path "")
  log path event := do
    let _ ← attempt (appendText path (eventLine event))
  print text := do
    let output ← IO.getStdout
    output.putStr text
    output.flush
  complain text := do
    let errors ← IO.getStderr
    errors.putStr text
  trace asValue event := do
    let errors ← IO.getStderr
    errors.putStr (if asValue then valueLine event.toJson else eventLine event)

/-- The variables that the program knows by name. -/
def knownVariables : List String :=
  ["HOME", "XDG_CONFIG_HOME", "NO_COLOR", "RUST_LOG", "RIGGER_WORKSPACE__PACKAGES_DIR",
   "RIGGER_OUTPUT__NO_COLOR", "RIGGER_OUTPUT__FORMAT", "RIGGER_LOGGING__FILE"]

/-- A variable as the system lists it, with an equals sign behind its name. -/
def entry? (entry : String) : Option (String × String) :=
  let text := entry.toList
  match text.dropWhile fun c => c ≠ '=' with
  | _ :: value => some (String.ofList (text.takeWhile fun c => c ≠ '='), String.ofList value)
  | [] => none

/-- All variables where the system lists them, and else those that are known by name. -/
def environment : IO Environment := do
  match ← attempt (IO.FS.readFile "/proc/self/environ") with
  | .ok text => pure ⟨(Text.pieces '\x00' text).filterMap entry?⟩
  | .error _ =>
    let values ← knownVariables.mapM fun name => do
      let value ← IO.getEnv name
      pure (value.map fun value => (name, value))
    pure ⟨values.filterMap id⟩

end PackageIndex.Machine

def main (arguments : List String) : IO UInt32 := do
  let environment ← PackageIndex.Machine.environment
  let code ← PackageIndex.CommandLine.Program.run PackageIndex.Machine.host environment arguments
  pure code.toUInt32
