import PackageIndex.Proofs.CommandLine.Printing
import PackageIndex.Proofs.Json.RoundTrip

/-!
# One document on the output

Asked for JSON, a command that succeeds prints exactly one document and a line break, whatever host
it runs on and however little it has to say. Two commands do not look at what is asked for and print
messages all the same: the one that makes a settings file and the one that tells where it is.
-/
namespace PackageIndex.CommandLine

variable {σ α : Type}

/-! ## Tasks -/

/-- A task that has one document to show, if it comes to an end at all. -/
structure Task.Documented (task : Task (List Message)) : Prop where
  ends : task.run.Ends fun result =>
    ∀ messages, result = .ok messages → ∃ value, messages = [.document value]

namespace Task.Documented

/-- Only what comes last has to be a document. -/
theorem bind {task : Task α} {next : α → Task (List Message)} (h : ∀ a, (next a).Documented) :
    (task >>= next).Documented := by
  refine ⟨(Script.ends_trivially task.run).bind fun result _ => ?_⟩
  cases result with
  | ok a => exact (h a).ends
  | error problem => exact fun messages wrong => by cases wrong

/-- Where there is a choice between a document and messages, the document is shown. -/
theorem document (value : Json.Value) (messages : List Message) :
    Documented (pure (if true then [.document value] else messages)) := by
  refine ⟨fun shown same => ?_⟩
  cases same
  exact ⟨value, rfl⟩

theorem fail (problem : Problem) : Documented (Task.fail problem) := by
  refine ⟨fun messages wrong => ?_⟩
  cases wrong

theorem packageTask {command : Command} {task : Workspace → Task (List Message)}
    (h : command.packageTask? true = some task) (workspace : Workspace) :
    (task workspace).Documented := by
  cases command with
  | autoloadFind package className =>
    cases h
    refine .bind fun package => .bind fun className => .bind fun file => ?_
    cases file with
    | none => exact .fail _
    | some file => exact .document _ _
  | autoloadInit | autoloadRebuild | routeInit | routeList =>
    cases h
    exact .bind fun package => .bind fun result => .document _ _
  | autoloadAdd | routeAdd =>
    cases h
    exact .bind fun package => .bind fun given => .bind fun added => .document _ _
  | routeCompile | checkName | init | completions | settingsGet | settingsList | settingsPath =>
    cases h

theorem routeCompile (address : String) : (Task.routeCompile true address).Documented :=
  .bind fun _ => .document _ _

theorem checkName (name : String) (isBare : Bool) :
    (Task.checkName true name isBare).Documented := by
  unfold Task.checkName
  extract_lets finish
  have finished (a : PUnit) : (finish a).Documented := .document _ _
  split
  · split
    · exact .bind finished
    · exact finished ()
  · exact .bind fun _ => finished ()

theorem settingsGet (settings : Settings) (key : String) :
    (Task.settingsGet settings true key).Documented := by
  unfold Task.settingsGet
  split
  · exact .fail _
  · exact .document _ _

end Task.Documented

/-! ## Messages -/

def Message.isDocument : Message → Bool
  | .document _ => true
  | _ => false

def Display.shown (display : Display) (messages : List Message) : String :=
  String.join (messages.filterMap display.text?)

theorem Display.shown_append (display : Display) (messages more : List Message) :
    display.shown (messages ++ more) = display.shown messages ++ display.shown more := by
  rw [shown, List.filterMap_append, String.join_append]
  rfl

theorem Display.shown_document (display : Display) (value : Json.Value) :
    display.shown [.document value] = value.shown ++ "\n" := by
  simp [shown, text?, line]

/-- What a command has to show where JSON is asked for: completions as ever, messages or nothing
from the two commands that do not care, and one document from every other. -/
def Command.Answers (display : Display) (output : String) : Command → Prop
  | .completions shell => output = Usage.completion shell
  | .init _ _ | .settingsPath =>
    ∃ messages, (∀ message ∈ messages, message.isDocument = false) ∧ output = display.shown messages
  | _ => ∃ value, output = value.shown ++ "\n" ∧
    Json.read output = (Json.Draft.readBack value, some ['\n'])

namespace Program

variable (host : Host (StateM σ)) (session : Session)

theorem prints_say (message : Message) :
    Prints (say host.recorded session message) fun _ text =>
      text = session.display.shown [message] := by
  unfold say
  split
  · next text shown =>
    refine (Prints.print host text).mono fun _ printed same => ?_
    simp [same, Display.shown, shown]
  · next hidden =>
    refine .pure ?_
    simp [Display.shown, hidden]

theorem prints_sayAll (messages : List Message) :
    Prints (sayAll host.recorded session messages) fun _ text =>
      text = session.display.shown messages := by
  induction messages with
  | nil => exact .pure rfl
  | cons message rest ih =>
    refine (prints_say host session message).bind fun _ text same => ih.mono fun _ more same' => ?_
    rw [same, same', ← Display.shown_append]
    rfl

/-- A task that comes to an end shows its messages and nothing else. -/
theorem prints_perform {task : Task (List Message)} {holds : List Message → Prop}
    (ends : task.run.Ends fun result => ∀ messages, result = .ok messages → holds messages) :
    Prints (perform host.recorded session task) fun result text => result = .ok () →
      ∃ messages, holds messages ∧ text = session.display.shown messages := by
  refine (ends.prints host session).bind fun result text told => ?_
  obtain ⟨rfl, told⟩ := told
  cases result with
  | error problem => exact .pure fun wrong => by cases wrong
  | ok messages =>
    refine (prints_sayAll host session messages).bind fun _ text same => .pure fun _ => ?_
    exact ⟨messages, told messages rfl, by simp [same]⟩

/-- What prints a document prints one that is read back, and a line end behind it. -/
theorem prints_documented {task : Task (List Message)} (documented : task.Documented) :
    Prints (perform host.recorded session task) fun result text => result = .ok () →
      ∃ value, text = value.shown ++ "\n" ∧
        Json.read text = (Json.Draft.readBack value, some ['\n']) := by
  refine (prints_perform host session documented.ends).mono fun result text told done => ?_
  obtain ⟨_, ⟨value, rfl⟩, rfl⟩ := told done
  rw [Display.shown_document]
  exact ⟨value, rfl, Json.read_shown value⟩

/-- Making the settings file tells of it in messages that are no documents. -/
theorem prints_init (place : Option String) (isForced : Bool) :
    Prints (init host.recorded session place isForced) fun result text => result = .ok () →
      ∃ messages, (∀ message ∈ messages, message.isDocument = false) ∧
        text = session.display.shown messages := by
  refine (prints_say host session _).bind fun _ first same => ?_
  have last (message : Message) (other : message.isDocument = false) : Prints
      (say host.recorded session message >>= fun _ => pure (Except.ok () : Except Problem Unit))
      fun result more => result = .ok () →
        ∃ messages, (∀ message ∈ messages, message.isDocument = false) ∧
          first ++ more = session.display.shown messages := by
    refine (prints_say host session message).bind fun _ second same' => .pure fun _ => ?_
    refine ⟨[.info "Initialising configuration...", message], ?_, ?_⟩
    · simpa [Message.isDocument] using other
    · rw [same, same', String.append_empty, ← Display.shown_append]
      rfl
  refine .silent_bind (.onFirst _) fun isThere => ?_
  split
  · exact last _ rfl
  · refine .silent_bind (silent_writeSettings host _) fun written => ?_
    split
    · exact .pure fun wrong => by cases wrong
    · exact last _ rfl

theorem prints_packageTask (command : Command) {task : Workspace → Task (List Message)}
    (h : command.packageTask? true = some task) (workspace : Workspace) :
    Prints (note host.recorded session session.workspaceEvent >>= fun _ =>
        perform host.recorded session (task workspace)) fun result text => result = .ok () →
      ∃ value, text = value.shown ++ "\n" ∧
        Json.read text = (Json.Draft.readBack value, some ['\n']) :=
  .silent_bind (silent_note host session _) fun _ =>
    prints_documented host session (.packageTask h workspace)

/-- With JSON asked for, a command that succeeds prints what answers it. -/
theorem prints_execute (json : session.display.isJson = true) (command : Command) :
    Prints (execute host.recorded session command) fun result text =>
      result = .ok () → command.Answers session.display text := by
  unfold execute
  extract_lets isJson
  have asked : isJson = true := json
  clear_value isJson
  subst asked
  cases command with
  | routeCompile address => exact prints_documented host session (.routeCompile address)
  | checkName name isBare => exact prints_documented host session (.checkName name isBare)
  | init place isForced => exact prints_init host session place isForced
  | completions shell =>
    refine (Prints.print host _).bind fun _ text same => .pure fun _ => ?_
    rw [same, String.append_empty]
    rfl
  | settingsGet key => exact prints_documented host session (.settingsGet session.settings key)
  | settingsList => exact prints_documented host session (.document _ _)
  | settingsPath =>
    refine prints_perform host session fun messages same => ?_
    cases same
    simp [Message.isDocument]
  | autoloadInit package => exact prints_packageTask host session (.autoloadInit package) rfl _
  | autoloadAdd package file classes =>
    exact prints_packageTask host session (.autoloadAdd package file classes) rfl _
  | autoloadFind package className =>
    exact prints_packageTask host session (.autoloadFind package className) rfl _
  | autoloadRebuild package =>
    exact prints_packageTask host session (.autoloadRebuild package) rfl _
  | routeInit package => exact prints_packageTask host session (.routeInit package) rfl _
  | routeAdd package route => exact prints_packageTask host session (.routeAdd package route) rfl _
  | routeList package => exact prints_packageTask host session (.routeList package) rfl _

/-- No problem ends the program as a success does. -/
theorem exitCode_ne_zero (problem : Problem) : problem.exitCode ≠ 0 := by
  unfold Problem.exitCode
  cases problem.kind <;> decide

theorem prints_conclude (json : session.display.isJson = true) (command : Command) :
    Prints (conclude host.recorded session command) fun code text =>
      code = 0 → command.Answers session.display text := by
  refine .silent_bind (silent_note host session _) fun _ => ?_
  refine (prints_execute host session json command).bind fun result text told => ?_
  cases result with
  | ok =>
    refine .silent_bind (silent_note host session _) fun _ => .pure fun _ => ?_
    rw [String.append_empty]
    exact told rfl
  | error problem =>
    refine .silent_bind (silent_noteAll host session _) fun _ => ?_
    exact .silent_bind (.onFirst _) fun _ => .pure fun code =>
      absurd code (exitCode_ne_zero problem)

/-- What the settings are found to be decides how a command is shown. -/
theorem start_prints (environment : Environment) (invocation : Invocation Command)
    {state : σ × String} {settings : Settings}
    (loaded : ((loadSettings host.recorded environment
      (Preferences.ofInvocation environment invocation).settingsFile).run state).1 = some settings)
    (json : (Display.ofPreferences (.ofInvocation environment invocation) settings).isJson = true) :
    PrintsFrom state (start host.recorded environment invocation) fun code text => code = 0 →
      invocation.command.Answers (.ofPreferences (.ofInvocation environment invocation) settings)
        text := by
  refine .silent_bind (silent_loadSettings host environment _) ?_
  rw [loaded]
  refine (Prints.silent_bind (silent_openLog? host settings.logFile) fun opened => ?_) _
  cases opened with
  | error reason =>
    exact .silent_bind (.onFirst _) fun _ => .pure fun code => absurd code (by decide)
  | ok logFile =>
    let session : Session := ⟨.ofInvocation environment invocation, settings,
      Settings.usualPath environment, filter environment (.ofInvocation environment invocation),
      logFile⟩
    exact prints_conclude host session json invocation.command

def resolved? {m : Type → Type} [Monad m] (host : Host m) (environment : Environment)
    (invocation : Invocation Command) : m (Option Display) := do
  let environment ← extended host environment
  let preferences := Preferences.ofInvocation environment invocation
  let settings ← loadSettings host environment preferences.settingsFile
  pure (settings.map (Display.ofPreferences preferences))

/-- Asked for JSON, a command that succeeds has one document on the output and nothing else. -/
theorem run_prints_document (environment : Environment) {arguments : List String}
    {invocation : Invocation Command} {display : Display} {world : σ}
    (understood : Command.read arguments = .ok invocation)
    (resolved : ((resolved? host.recorded environment invocation).run (world, "")).1 = some display)
    (json : display.isJson = true)
    (succeeded : ((run host.recorded environment arguments).run (world, "")).1 = 0) :
    invocation.command.Answers display
      ((run host.recorded environment arguments).run (world, "")).2.2 := by
  have ran : PrintsFrom (world, "") (run host.recorded environment arguments) fun code text =>
      code = 0 → invocation.command.Answers display text := by
    refine .silent_bind (silent_extended host environment) ?_
    rw [understood]
    obtain ⟨settings, loaded, rfl⟩ := Option.map_eq_some_iff.mp resolved
    exact start_prints host _ invocation loaded json
  obtain ⟨text, printed, told⟩ := ran
  rw [printed, String.empty_append]
  exact told succeeded

def emptyHost : Host (StateM Unit) where
  workingDirectory := pure ⟨"/"⟩
  read _ := pure (.error ⟨true, ""⟩)
  replace _ _ := pure (.ok ())
  overwrite _ _ := pure (.ok ())
  isPresent _ := pure false
  isFile _ := pure false
  makeDirectories _ := pure (.ok ())
  walk _ := pure (.ok [])
  openLog _ := pure (.ok ())
  log _ _ := pure ()
  print _ := pure ()
  complain _ := pure ()
  trace _ _ := pure ()

deriving instance DecidableEq for Invocation

/-- Checking a name answers with a document, in a directory where there is nothing else. -/
theorem run_prints_document_checkName :
    Command.Answers ⟨.json, false, false⟩
      ((run emptyHost.recorded ⟨[]⟩
        ["--output-format", "json", "check-name", "a"]).run ((), "")).2.2
      (.checkName "a" false) := by
  have understood : Command.read ["--output-format", "json", "check-name", "a"] =
      .ok ⟨.checkName "a" false, [⟨[], ["a"]⟩, ⟨[("output-format", ["json"])], []⟩]⟩ := by
    decide +kernel
  have resolved : ((resolved? emptyHost.recorded ⟨[]⟩
      ⟨.checkName "a" false, [⟨[], ["a"]⟩, ⟨[("output-format", ["json"])], []⟩]⟩).run ((), "")).1 =
        some ⟨.json, false, false⟩ := by
    decide +kernel
  have succeeded : ((run emptyHost.recorded ⟨[]⟩
      ["--output-format", "json", "check-name", "a"]).run ((), "")).1 = 0 := by
    decide +kernel
  exact run_prints_document emptyHost ⟨[]⟩ understood resolved rfl succeeded

/-- Where the settings are is told in a line that is no document, JSON asked for or not. -/
theorem settingsPath_prints_no_document :
    Command.read ["--output-format", "json", "config", "path"] =
        .ok ⟨.settingsPath, [⟨[], []⟩, ⟨[], []⟩, ⟨[("output-format", ["json"])], []⟩]⟩ ∧
      ((resolved? emptyHost.recorded ⟨[]⟩
        ⟨.settingsPath, [⟨[], []⟩, ⟨[], []⟩, ⟨[("output-format", ["json"])], []⟩]⟩).run
          ((), "")).1 = some ⟨.json, false, false⟩ ∧
      ((run emptyHost.recorded ⟨[]⟩ ["--output-format", "json", "config", "path"]).run
        ((), "")).1 = 0 ∧
      ((run emptyHost.recorded ⟨[]⟩ ["--output-format", "json", "config", "path"]).run
        ((), "")).2.2 = ".rigger.toml\n" ∧
      (Json.read ".rigger.toml\n").2 = none := by
  decide +kernel

end Program

end PackageIndex.CommandLine
