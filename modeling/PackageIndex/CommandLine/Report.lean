import PackageIndex.Failure

/-!
# Error reports

What the command line tells a person when a command did not succeed: what went wrong, on request
what it came from, and what to try. The report comes plain, or with colours for a terminal, and the
kind of problem decides the exit code.
-/
namespace PackageIndex.CommandLine

inductive Problem where
  | invalidInput (message : String) (cause : Option String)
  | classNotRegistered (className package : String)
  | badSettings (message : String) (cause : Option String)
  | failed (failure : Failure)
  | inputOutput (message cause : String)
  deriving DecidableEq, Repr

inductive ProblemKind where
  | userError
  | notFound
  | configuration
  | internal
  deriving DecidableEq, Repr

def ProblemKind.exitCode : ProblemKind → Nat
  | userError => 2
  | notFound => 3
  | configuration => 4
  | internal => 1

namespace Problem

def message : Problem → String
  | invalidInput message _ => s!"Invalid input: {message}"
  | classNotRegistered className package =>
    s!"Class '{className}' is not registered in package '{package}'"
  | badSettings message _ => s!"Configuration error: {message}"
  | failed failure => failure.message
  | inputOutput message _ => s!"I/O error: {message}"

/-- What the problem came from. A failed operation is its own cause. -/
def cause? : Problem → Option String
  | invalidInput _ cause | badSettings _ cause => cause
  | classNotRegistered _ _ => none
  | failed failure => some failure.message
  | inputOutput _ cause => some cause

/-- `settingsFile` is where the settings are looked for. -/
def suggestions (settingsFile : Path) : Problem → List String
  | invalidInput message _ =>
    [s!"Check your input: {message}", "Use --help for usage information"]
  | classNotRegistered className package =>
    [s!"Register it: rigger autoload add {package} <file> --class {className}",
     s!"Or rescan the package: rigger autoload rebuild {package}"]
  | badSettings message _ =>
    [s!"Configuration issue: {message}",
     s!"Check your config file at {settingsFile.text}",
     "Use 'rigger init' to create a default config"]
  | failed failure => failure.suggestions
  | inputOutput message _ =>
    [s!"I/O operation failed: {message}", "Check file permissions",
     "Ensure the parent directory exists"]

def kind : Problem → ProblemKind
  | invalidInput _ _ => .userError
  | classNotRegistered _ _ => .notFound
  | badSettings _ _ => .configuration
  | failed failure =>
    match failure.kind with
    | .validation | .corrupt => .userError
    | .notFound => .notFound
    | .configuration => .configuration
    | .internal => .internal
  | inputOutput _ _ => .internal

def exitCode (problem : Problem) : Nat := problem.kind.exitCode

end Problem

/-! ## Colours -/

/-- The escape sequences around a styled text. -/
structure Style where
  start : String
  stop : String

namespace Style

def red : Style := ⟨"\x1b[31m", "\x1b[39m"⟩
def green : Style := ⟨"\x1b[32m", "\x1b[39m"⟩
def yellow : Style := ⟨"\x1b[33m", "\x1b[39m"⟩
def blue : Style := ⟨"\x1b[34m", "\x1b[39m"⟩
def cyan : Style := ⟨"\x1b[36m", "\x1b[39m"⟩
def bold : Style := ⟨"\x1b[1m", "\x1b[0m"⟩
def dimmed : Style := ⟨"\x1b[2m", "\x1b[0m"⟩

def apply (style : Style) (text : String) : String := style.start ++ text ++ style.stop

end Style

namespace Problem

def hint : String := "Use -v / --verbose for more details."

/-- A report without colours. The cause is told instead of the hint that it can be. -/
def plain (settingsFile : Path) (verbose : Bool) (problem : Problem) : String :=
  "\nError: " ++ problem.message ++ "\n"
    ++ (match verbose, problem.cause? with
      | true, some cause => "  Caused by: " ++ cause ++ "\n"
      | _, _ => "")
    ++ "\nSuggestions:\n"
    ++ String.join ((problem.suggestions settingsFile).map fun line => "  " ++ line ++ "\n")
    ++ if verbose then "" else "\n" ++ hint ++ "\n"

def colored (settingsFile : Path) (verbose : Bool) (problem : Problem) : String :=
  "\n" ++ Style.bold.apply (Style.red.apply "✗") ++ " "
    ++ Style.bold.apply (Style.red.apply "Error:") ++ "\n\n"
    ++ "  " ++ Style.red.apply problem.message ++ "\n"
    ++ (match verbose, problem.cause? with
      | true, some cause =>
        "\n  " ++ Style.dimmed.apply "→" ++ " " ++ Style.dimmed.apply cause ++ "\n"
      | _, _ => "")
    ++ "\n" ++ Style.bold.apply (Style.yellow.apply "Suggestions:") ++ "\n"
    ++ String.join ((problem.suggestions settingsFile).map fun line => "  " ++ line ++ "\n")
    ++ if verbose then ""
      else "\n" ++ Style.blue.apply "ℹ" ++ " " ++ Style.dimmed.apply hint ++ "\n"

end Problem

end PackageIndex.CommandLine
