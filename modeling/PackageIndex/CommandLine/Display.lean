import PackageIndex.CommandLine.Command
import PackageIndex.CommandLine.Report
import PackageIndex.Json.Render

/-!
# Display

How the results of commands are shown: as messages for a person, with signs and perhaps colours, or
as one document for a program. Whoever asks for quiet gets the document only.
-/
namespace PackageIndex.CommandLine

inductive Message where
  | plain (text : String)
  | success (text : String)
  | warning (text : String)
  | info (text : String)
  | header (text : String)
  | document (value : Json.Value)
  deriving DecidableEq, Repr

structure Display where
  format : Format
  isQuiet : Bool
  isColored : Bool
  deriving DecidableEq, Repr

namespace Display

/-- A preference for a format counts more than the settings; if neither has one, messages are plain,
for nobody is known to be looking. -/
def ofPreferences (preferences : Preferences) (settings : Settings) : Display :=
  let wanted := match preferences.format with
    | .auto => (Format.ofWord? (Text.folded settings.format)).getD .auto
    | format => format
  let format := match wanted with
    | .auto => .plain
    | format => format
  ⟨format, preferences.isQuiet,
    format = .human && !preferences.noColor && !settings.noColor⟩

def isJson (display : Display) : Bool := display.format = .json

def signed (isColored : Bool) (style : Style) (sign text : String) : String :=
  if isColored then Style.bold.apply (style.apply sign) ++ " " ++ style.apply text
  else sign ++ " " ++ text

def line (isColored : Bool) : Message → String
  | .plain text => text
  | .success text => signed isColored .green "✓" text
  | .warning text => signed isColored .yellow "⚠" text
  | .info text => signed isColored .blue "ℹ" text
  | .header text => if isColored then Style.bold.apply (Style.cyan.apply text) else text
  | .document value => value.shown

/-- What is written for a message, if anything is. -/
def text? (display : Display) (message : Message) : Option String :=
  let shown := some (line display.isColored message ++ "\n")
  match message with
  | .document _ => shown
  | _ => if display.isQuiet then none else shown

end Display

end PackageIndex.CommandLine
