import PackageIndex.CommandLine.Log
import PackageIndex.CommandLine.Task
import PackageIndex.CommandLine.Usage
import PackageIndex.Settings.VariableFile
import PackageIndex.Store.Local

/-!
# The program

From the arguments and the environment to an exit code. Arguments come first, then the settings,
then logging; only then the command runs. Whatever goes wrong before that has an exit code of its
own.
-/
namespace PackageIndex.CommandLine

/-- All that is settled before a command runs. -/
structure Session where
  preferences : Preferences
  settings : Settings
  /-- Where settings are looked for unless a place is given. -/
  usualPath : Path
  filter : LogFilter
  logFile : Option Path
  deriving Repr

namespace Session

def display (session : Session) : Display := .ofPreferences session.preferences session.settings

def packagesDirectory (session : Session) : Path :=
  ⟨session.preferences.packagesDirectory.getD session.settings.packagesDirectory⟩

def startEvent (session : Session) : Event :=
  ⟨.debug, "rigger", "CLI started",
    [("verbose", .number (.integer session.preferences.verbosity)),
     ("quiet", .bool session.preferences.isQuiet),
     ("no_color", .bool session.preferences.noColor),
     ("packages_dir", .string session.packagesDirectory.text)]⟩

def workspaceEvent (session : Session) : Event :=
  ⟨.debug, "rigger::commands", "Opening workspace",
    [("packages_dir", .string session.packagesDirectory.text)]⟩

def successEvent : Event := ⟨.info, "rigger", "Rigger completed successfully", []⟩

end Session

namespace Problem

/-- What is logged about a problem. -/
def events (problem : Problem) : List Event :=
  let (level, kind) : Level × String := match problem.kind with
    | .userError => (.warn, "User error: ")
    | .notFound => (.warn, "Not found: ")
    | .configuration => (.error, "Configuration error: ")
    | .internal => (.error, "Internal error: ")
  ⟨level, "rigger::error", kind ++ problem.message, []⟩
    :: problem.cause?.toList.map fun cause => ⟨.debug, "rigger::error", "Caused by: " ++ cause, []⟩

end Problem

/-! ## Commands -/

/-- A command that works on packages, as its task in a workspace. -/
def Command.packageTask? (isJson : Bool) : Command → Option (Workspace → Task (List Message))
  | .autoloadInit package => some fun workspace => Task.autoloadInit workspace isJson package
  | .autoloadAdd package file classes =>
    some fun workspace => Task.autoloadAdd workspace isJson package file classes
  | .autoloadFind package className =>
    some fun workspace => Task.autoloadFind workspace isJson package className
  | .autoloadRebuild package => some fun workspace => Task.autoloadRebuild workspace isJson package
  | .routeInit package => some fun workspace => Task.routeInit workspace isJson package
  | .routeAdd package route => some fun workspace => Task.routeAdd workspace isJson package route
  | .routeList package => some fun workspace => Task.routeList workspace isJson package
  | .routeCompile _ | .checkName _ _ | .init _ _ | .completions _ | .settingsGet _
  | .settingsList | .settingsPath => none

namespace Program

variable {m : Type → Type} [Monad m]

/-- Tells an event that the filter lets through. -/
def note (host : Host m) (session : Session) (event : Event) : m Unit := do
  if session.filter.passes event then
    host.trace (session.preferences.format = .json) event
    if let some path := session.logFile then host.log path event

def say (host : Host m) (session : Session) (message : Message) : m Unit :=
  match session.display.text? message with
  | some text => host.print text
  | none => pure ()

def sayAll (host : Host m) (session : Session) : List Message → m Unit
  | [] => pure ()
  | message :: rest => do
    say host session message
    sayAll host session rest

/-- Carries out a task and shows its messages. -/
def perform (host : Host m) (session : Session) (task : Task (List Message)) :
    m (Except Problem Unit) := do
  match ← Script.run (LocalStore.handler host (note host session)) task.run with
  | .ok messages => do
    sayAll host session messages
    pure (.ok ())
  | .error problem => pure (.error problem)

/-- Writes the built-in settings to a file. -/
def writeSettings (host : Host m) (path : Path) : m (Except Problem Unit) := do
  let directory := match path.parent? with
    | some directory => if directory.text = "" then none else some directory
    | none => none
  let made ← match directory with
    | none => pure (.ok ())
    | some directory => do
      let made ← host.makeDirectories directory
      pure <| made.mapError fun fault =>
        .inputOutput s!"Failed to create config directory '{directory.text}'" fault.text
  match made with
  | .error problem => pure (.error problem)
  | .ok () => do
    let written ← host.overwrite path Settings.builtIn.toToml
    pure <| written.mapError fun fault =>
      .inputOutput s!"Failed to write config to '{path.text}'" fault.text

/-- Makes a settings file, but not over one that is there unless forced to. -/
def init (host : Host m) (session : Session) (place : Option String) (isForced : Bool) :
    m (Except Problem Unit) := do
  say host session (.info "Initialising configuration...")
  let path := (place.map Path.mk).getD session.usualPath
  let isThere ← host.isPresent path
  if isThere && !isForced then
    say host session
      (.warning s!"Config already exists at {path.text}  (use --force to overwrite)")
    pure (.ok ())
  else
    match ← writeSettings host path with
    | .error problem => pure (.error problem)
    | .ok () => do
      say host session (.success s!"Configuration created at {path.text}")
      pure (.ok ())

def execute (host : Host m) (session : Session) (command : Command) : m (Except Problem Unit) := do
  let isJson := session.display.isJson
  match command with
  | .routeCompile address => perform host session (Task.routeCompile isJson address)
  | .checkName name isBare => perform host session (Task.checkName isJson name isBare)
  | .init place isForced => init host session place isForced
  | .completions shell => do
    host.print (Usage.completion shell)
    pure (.ok ())
  | .settingsGet key => perform host session (Task.settingsGet session.settings isJson key)
  | .settingsList => perform host session (pure (Task.settingsList session.settings isJson))
  | .settingsPath =>
    let path := session.preferences.settingsFile.getD session.usualPath
    perform host session (pure [.plain path.text])
  | command =>
    match command.packageTask? isJson with
    | none => pure (.ok ())
    | some task => do
      note host session session.workspaceEvent
      perform host session (task ⟨session.packagesDirectory⟩)

def noteAll (host : Host m) (session : Session) : List Event → m Unit
  | [] => pure ()
  | event :: rest => do
    note host session event
    noteAll host session rest

/-- Runs a command and tells how it went. -/
def conclude (host : Host m) (session : Session) (command : Command) : m Nat := do
  note host session session.startEvent
  match ← execute host session command with
  | .ok () => do
    note host session Session.successEvent
    pure 0
  | .error problem => do
    noteAll host session problem.events
    host.complain (problem.plain session.usualPath (0 < session.preferences.verbosity))
    pure problem.exitCode

/-! ## Before a command -/

def directoriesFrom : (bound : Nat) → Path → List Path
  | 0, _ => []
  | bound + 1, path =>
    path :: match path.parent? with
      | some parent => directoriesFrom bound parent
      | none => []

def firstFile? (host : Host m) : List Path → m (Option Path)
  | [] => pure none
  | path :: rest => do
    if ← host.isFile path then pure (some path) else firstFile? host rest

/-- The environment with what a file of variables adds, in the working directory or else in the
nearest one above it. -/
def extended (host : Host m) (environment : Environment) : m Environment := do
  let here ← host.workingDirectory
  let places := (directoriesFrom (here.text.length + 1) here).map fun directory =>
    directory.join VariableFile.fileName
  match ← firstFile? host places with
  | none => pure environment
  | some path =>
    match ← host.read path with
    | .ok text => pure (VariableFile.extend environment text)
    | .error _ => pure environment

/-- Where the settings are read from. -/
inductive SettingsFile where
  | found (path : Path) (format : Settings.FileFormat)
  | unknownFormat
  | missing

def locate (host : Host m) (path : Path) : m SettingsFile := do
  if ← host.isFile path then
    match Settings.FileFormat.ofPath? path with
    | some format => pure (.found path format)
    | none => pure .unknownFormat
  else tryAll (Settings.siblings path)
where
  tryAll : List (Path × Settings.FileFormat) → m SettingsFile
    | [] => pure .missing
    | (path, format) :: rest => do
      if ← host.isFile path then pure (.found path format) else tryAll rest

/-- The entries of the settings file. One that was asked for has to be there, any one that is there
has to make sense. -/
def fileEntries (host : Host m) (path : Path) (isRequired : Bool) :
    m (Option Setting.Entries) := do
  let absent : Option Setting.Entries := if isRequired then none else some []
  match ← locate host path with
  | .missing | .unknownFormat => pure absent
  | .found path format =>
    match ← host.read path with
    | .ok text => pure (Settings.ofDocument? format text)
    | .error _ => pure absent

def loadSettings (host : Host m) (environment : Environment) (given : Option Path) :
    m (Option Settings) := do
  let entries ← fileEntries host (given.getD (Settings.usualPath environment)) given.isSome
  pure (entries.bind fun entries => Settings.load? entries environment)

/-- Makes a log file ready in its directory and gives the path to it. -/
def openLog (host : Host m) (path : Path) : m (Except String Path) := do
  let directory : Path := match path.parent? with
    | some parent => if parent.text = "" then ⟨"."⟩ else parent
    | none => ⟨"."⟩
  match path.fileName? with
  | none => pure (.error s!"Log file '{path.text}' has no file name")
  | some name =>
    match ← host.makeDirectories directory with
    | .error fault =>
      pure (.error s!"Failed to create log directory '{directory.text}': {fault.text}")
    | .ok () => do
      let file := directory.join name
      let opened ← host.openLog file
      pure <| match opened with
        | .ok () => .ok file
        | .error fault => .error fault.text

def openLog? (host : Host m) : Option String → m (Except String (Option Path))
  | none => pure (.ok none)
  | some path => do
    let opened ← openLog host ⟨path⟩
    pure (opened.map some)

/-- The filter of the environment, if it has one that can be read; else the preferences decide. -/
def filter (environment : Environment) (preferences : Preferences) : LogFilter :=
  ((environment.valueOf? "RUST_LOG").bind LogFilter.ofText?).getD
    (.ofVerbosity preferences.isQuiet preferences.verbosity)

/-- What comes of arguments that are no command. -/
def halt (host : Host m) : Stop → m Nat
  | .help => do
    host.print Usage.text
    pure 0
  | .version => do
    host.print version
    pure 0
  | .misuse => do
    host.complain Usage.complaint
    pure 2

def start (host : Host m) (environment : Environment) (invocation : Invocation Command) :
    m Nat := do
  let preferences := Preferences.ofInvocation environment invocation
  match ← loadSettings host environment preferences.settingsFile with
  | none => do
    host.complain "Failed to load configuration\n"
    pure 4
  | some settings => do
    match ← openLog? host settings.logFile with
    | .error reason => do
      host.complain s!"Failed to initialise logging: {reason}\n"
      pure 1
    | .ok logFile =>
      let session : Session :=
        ⟨preferences, settings, Settings.usualPath environment, filter environment preferences,
          logFile⟩
      conclude host session invocation.command

/-- Runs the program and gives its exit code. -/
def run (host : Host m) (environment : Environment) (arguments : List String) : m Nat := do
  let environment ← extended host environment
  match Command.read arguments with
  | .ok invocation => start host environment invocation
  | .error stop => halt host stop

end Program

end PackageIndex.CommandLine
