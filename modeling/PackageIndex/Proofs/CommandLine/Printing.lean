import PackageIndex.CommandLine.Program

/-!
# What the program prints

A host can keep a record of all that is printed on it. What the program does before, between and
after the messages of a command leaves that record alone: looking for settings, making a log file
ready, telling events, and whatever a script asks a store.
-/
namespace PackageIndex

variable {σ α β : Type}

def onFirst (act : StateM σ α) : StateM (σ × String) α := fun state =>
  let (a, first) := act.run state.1
  (a, (first, state.2))

def Host.recorded (host : Host (StateM σ)) : Host (StateM (σ × String)) where
  workingDirectory := onFirst host.workingDirectory
  read path := onFirst (host.read path)
  replace path text := onFirst (host.replace path text)
  overwrite path text := onFirst (host.overwrite path text)
  isPresent path := onFirst (host.isPresent path)
  isFile path := onFirst (host.isFile path)
  makeDirectories path := onFirst (host.makeDirectories path)
  walk path := onFirst (host.walk path)
  openLog path := onFirst (host.openLog path)
  log path event := onFirst (host.log path event)
  print text := do
    onFirst (host.print text)
    modify fun state => (state.1, state.2 ++ text)
  complain text := onFirst (host.complain text)
  trace asValue event := onFirst (host.trace asValue event)

/-! ## Records -/

/-- From a state on some text is put behind the record, and it and the result are as told. -/
def PrintsFrom (state : σ × String) (act : StateM (σ × String) α) (told : α → String → Prop) :
    Prop :=
  ∃ text, (act.run state).2.2 = state.2 ++ text ∧ told (act.run state).1 text

def Prints (act : StateM (σ × String) α) (told : α → String → Prop) : Prop :=
  ∀ state, PrintsFrom state act told

def Silent (act : StateM (σ × String) α) : Prop :=
  ∀ state, (act.run state).2.2 = state.2

namespace Silent

variable {act : StateM (σ × String) α}

theorem pure (a : α) : Silent (pure a : StateM (σ × String) α) := fun _ => rfl

theorem onFirst (act : StateM σ α) : Silent (onFirst act) := fun _ => rfl

theorem bind {next : α → StateM (σ × String) β} (first : Silent act)
    (rest : ∀ a, Silent (next a)) : Silent (act >>= next) := fun state =>
  (rest _ _).trans (first state)

end Silent

namespace Prints

variable {act : StateM (σ × String) α} {told : α → String → Prop}

theorem pure {a : α} (h : told a "") : Prints (pure a : StateM (σ × String) α) told := fun state =>
  ⟨"", state.2.append_empty.symm, h⟩

theorem of_silent (silent : Silent act) (h : ∀ a, told a "") : Prints act told := fun state =>
  ⟨"", (silent state).trans state.2.append_empty.symm, h _⟩

/-- Two parts print the text of the first and then that of the second. -/
theorem bind {next : α → StateM (σ × String) β} {later : β → String → Prop}
    (first : Prints act told)
    (rest : ∀ a text, told a text → Prints (next a) fun b more => later b (text ++ more)) :
    Prints (act >>= next) later := by
  intro state
  obtain ⟨text, recorded, holds⟩ := first state
  obtain ⟨more, recorded', holds'⟩ := rest _ text holds (act.run state).2
  refine ⟨text ++ more, ?_, holds'⟩
  rw [← String.append_assoc, ← recorded]
  exact recorded'

/-- What is known of a text may be weakened. -/
theorem mono {weaker : α → String → Prop} (h : Prints act told)
    (imp : ∀ a text, told a text → weaker a text) : Prints act weaker := fun state =>
  let ⟨text, recorded, holds⟩ := h state
  ⟨text, recorded, imp _ text holds⟩

/-- What is silent comes first. -/
theorem silent_bind {next : α → StateM (σ × String) β} {later : β → String → Prop}
    (first : Silent act) (rest : ∀ a, Prints (next a) later) : Prints (act >>= next) later := by
  have silent : Prints act fun _ text => text = "" := of_silent first fun _ => rfl
  refine silent.bind fun a text none => (rest a).mono fun b more h => ?_
  rwa [none, String.empty_append]

theorem print (host : Host (StateM σ)) (text : String) :
    Prints (host.recorded.print text) fun _ printed => printed = text := fun _ =>
  ⟨text, rfl, rfl⟩

end Prints

/-- From a state on it is known what the silent part results in. -/
theorem PrintsFrom.silent_bind {act : StateM (σ × String) α} {state : σ × String}
    {next : α → StateM (σ × String) β} {later : β → String → Prop} (first : Silent act)
    (rest : PrintsFrom (act.run state).2 (next (act.run state).1) later) :
    PrintsFrom state (act >>= next) later := by
  obtain ⟨text, recorded, holds⟩ := rest
  refine ⟨text, ?_, holds⟩
  rw [← first state]
  exact recorded

/-! ## Before a command -/

namespace CommandLine.Program

variable (host : Host (StateM σ))

theorem silent_firstFile? (paths : List Path) : Silent (firstFile? host.recorded paths) := by
  induction paths with
  | nil => exact .pure none
  | cons path rest ih =>
    refine .bind (.onFirst _) fun isFile => ?_
    split
    · exact .pure _
    · exact ih

theorem silent_extended (environment : Environment) :
    Silent (extended host.recorded environment) := by
  refine .bind (.onFirst _) fun here => .bind (silent_firstFile? host _) fun path? => ?_
  split
  · exact .pure _
  · refine .bind (.onFirst _) fun result => ?_
    split
    · exact .pure _
    · exact .pure _

theorem silent_tryAll (places : List (Path × Settings.FileFormat)) :
    Silent (locate.tryAll host.recorded places) := by
  induction places with
  | nil => exact .pure _
  | cons place rest ih =>
    refine .bind (.onFirst _) fun isFile => ?_
    split
    · exact .pure _
    · exact ih

theorem silent_fileEntries (path : Path) (isRequired : Bool) :
    Silent (fileEntries host.recorded path isRequired) := by
  have located : Silent (locate host.recorded path) := by
    refine .bind (.onFirst _) fun isFile => ?_
    split
    · split
      · exact .pure _
      · exact .pure _
    · exact silent_tryAll host _
  refine .bind located fun place => ?_
  split
  · exact .pure _
  · exact .pure _
  · refine .bind (.onFirst _) fun result => ?_
    split
    · exact .pure _
    · exact .pure _

/-- Finding the settings prints nothing. -/
theorem silent_loadSettings (environment : Environment) (given : Option Path) :
    Silent (loadSettings host.recorded environment given) :=
  .bind (silent_fileEntries host _ _) fun _ => .pure _

theorem silent_openLog? (file : Option String) : Silent (openLog? host.recorded file) := by
  cases file with
  | none => exact .pure _
  | some path =>
    refine .bind ?_ fun _ => .pure _
    unfold openLog
    extract_lets directory
    split
    · exact .pure _
    · refine .bind (.onFirst _) fun made => ?_
      split
      · exact .pure _
      · exact .bind (.onFirst _) fun _ => .pure _

/-! ## Beside a command -/

variable (session : Session)

theorem silent_note (event : Event) : Silent (note host.recorded session event) := by
  unfold note
  split
  · refine .bind (.onFirst _) fun _ => ?_
    split
    · exact .onFirst _
    · exact .pure _
  · exact .pure _

theorem silent_noteAll (events : List Event) : Silent (noteAll host.recorded session events) := by
  induction events with
  | nil => exact .pure ()
  | cons event rest ih => exact .bind (silent_note host session event) fun _ => ih

/-- No request of a script prints anything. -/
theorem silent_answer : (request : Request) → Silent (LocalStore.answer host.recorded request)
  | .read _ | .write _ _ | .makeDirectories _ => .bind (.onFirst _) fun _ => .pure _
  | .isPresent _ => .onFirst _
  | .parse _ => .pure _
  | .list _ _ => by
    refine .bind (.onFirst _) fun result => ?_
    split
    · exact .pure _
    · exact .pure _

theorem silent_writeSettings (path : Path) : Silent (writeSettings host.recorded path) := by
  unfold writeSettings
  extract_lets directory finish
  have finished (made : Except Problem Unit) : Silent (finish made) := by
    cases made with
    | error problem => exact .pure _
    | ok => exact .bind (.onFirst _) fun _ => .pure _
  clear_value directory
  cases directory with
  | none => exact .bind (.pure _) finished
  | some directory => exact .bind (.onFirst _) fun _ => .bind (.pure _) finished

end CommandLine.Program

/-! ## Scripts -/

/-- Every way through a script ends in a result of a kind, whatever is answered. -/
def Script.Ends (holds : α → Prop) : Script α → Prop
  | .done a => holds a
  | .ask _ next => ∀ answer, (next answer).Ends holds
  | .note _ next => next.Ends holds

/-- A script ends as what comes last does. -/
theorem Script.Ends.bind {holds : α → Prop} {later : β → Prop} {script : Script α}
    {next : α → Script β} (first : script.Ends holds) (rest : ∀ a, holds a → (next a).Ends later) :
    (script.bind next).Ends later := by
  induction script with
  | done a => exact rest a first
  | ask request continue_ ih => exact fun answer => ih answer (first answer)
  | note event script ih => exact ih first

theorem Script.ends_trivially (script : Script α) : script.Ends fun _ => True := by
  induction script with
  | done a => trivial
  | ask request next ih => exact ih
  | note event script ih => exact ih

/-- A script is carried out in silence. -/
theorem Script.Ends.prints {holds : α → Prop} {script : Script α} (h : script.Ends holds)
    (host : Host (StateM σ)) (session : CommandLine.Session) :
    Prints (script.run (LocalStore.handler host.recorded
      (CommandLine.Program.note host.recorded session))) fun a text => text = "" ∧ holds a := by
  induction script with
  | done a => exact .pure ⟨rfl, h⟩
  | ask request next ih =>
    exact .silent_bind (CommandLine.Program.silent_answer host request) fun answer =>
      ih answer (h answer)
  | note event script ih =>
    exact .silent_bind (CommandLine.Program.silent_note host session event) fun _ => ih h

end PackageIndex
