import PackageIndex.CommandLine.Arguments
import PackageIndex.Path
import PackageIndex.Settings

/-!
# Commands

What can be asked for on the command line and how it is written there, with the preferences that
every command understands.
-/
namespace PackageIndex.CommandLine

inductive Shell where
  | bash
  | zsh
  | fish
  | powerShell
  | elvish
  deriving DecidableEq, Repr

namespace Shell

def all : List Shell := [bash, zsh, fish, powerShell, elvish]

def word : Shell → String
  | bash => "bash"
  | zsh => "zsh"
  | fish => "fish"
  | powerShell => "power-shell"
  | elvish => "elvish"

def ofWord? (word : String) : Option Shell := all.find? fun shell => shell.word = word

end Shell

/-- How results are shown. `auto` leaves that to the settings and the terminal. -/
inductive Format where
  | auto
  | human
  | plain
  | json
  deriving DecidableEq, Repr

namespace Format

def all : List Format := [auto, human, plain, json]

def word : Format → String
  | auto => "auto"
  | human => "human"
  | plain => "plain"
  | json => "json"

def ofWord? (word : String) : Option Format := all.find? fun format => format.word = word

end Format

structure RouteArguments where
  address : String
  controller : String
  methods : List String
  isAbsolute : Bool
  api : Option String
  ajax : Option String
  deriving DecidableEq, Repr

inductive Command where
  | autoloadInit (package : String)
  /-- Without classes, those that the file declares. -/
  | autoloadAdd (package file : String) (classes : List String)
  | autoloadFind (package className : String)
  | autoloadRebuild (package : String)
  | routeInit (package : String)
  | routeAdd (package : String) (route : RouteArguments)
  | routeList (package : String)
  | routeCompile (address : String)
  | checkName (name : String) (isBare : Bool)
  | init (place : Option String) (isForced : Bool)
  | completions (shell : Shell)
  | settingsGet (key : String)
  | settingsList
  | settingsPath
  deriving DecidableEq, Repr

namespace Command

def any (name : String) : Operand := ⟨name, .any⟩

def package : Operand := any "PACKAGE"

/-- A command that only needs a package. -/
def ofPackage (name : String) (build : String → Command) : Spec Command :=
  .command name [] [package] fun given => build (given.operand 0)

def autoload : Spec Command :=
  .named "al" <| .group "autoload" [
    ofPackage "init" autoloadInit,
    .command "add" [⟨"class", none, .repeated .any⟩] [package, any "FILE"] fun given =>
      autoloadAdd (given.operand 0) (given.operand 1) (given.values "class"),
    .command "find" [] [package, any "CLASS"] fun given =>
      autoloadFind (given.operand 0) (given.operand 1),
    ofPackage "rebuild" autoloadRebuild]

def route : Spec Command :=
  .named "rt" <| .group "route" [
    ofPackage "init" routeInit,
    .command "add"
      [⟨"method", some 'm', .repeated .any⟩, ⟨"absolute", none, .flag⟩,
       ⟨"api", none, .single .any⟩, ⟨"ajax", none, .single .any⟩]
      [package, any "ADDRESS", any "CONTROLLER"] fun given =>
      routeAdd (given.operand 0)
        ⟨given.operand 1, given.operand 2, given.values "method", given.has "absolute",
          given.value? "api", given.value? "ajax"⟩,
    .named "ls" (ofPackage "list" routeList),
    .command "compile" [] [any "ADDRESS"] fun given => routeCompile (given.operand 0)]

def settings : Spec Command :=
  .group "config" [
    .command "get" [] [any "KEY"] fun given => settingsGet (given.operand 0),
    .command "list" [] [] fun _ => settingsList,
    .command "path" [] [] fun _ => settingsPath]

def program : Spec Command :=
  .group "rigger" [
    autoload,
    route,
    .command "check-name" [⟨"no-namespace", none, .flag⟩] [any "NAME"] fun given =>
      checkName (given.operand 0) (given.has "no-namespace"),
    .command "init" [⟨"output", some 'o', .single .filled⟩, ⟨"force", some 'f', .flag⟩] []
      fun given => init (given.value? "output") (given.has "force"),
    .command "completions" [] [⟨"SHELL", .oneOf (Shell.all.map Shell.word)⟩] fun given =>
      completions ((Shell.ofWord? (given.operand 0)).getD .bash),
    settings]

/-- The options that every command understands. -/
def shared : Shared :=
  ⟨[⟨"verbose", some 'v', .counter⟩, ⟨"quiet", some 'q', .flag⟩, ⟨"no-color", none, .flag⟩,
    ⟨"config", some 'c', .single .filled⟩,
    ⟨"output-format", none, .single (.oneOf (Format.all.map Format.word))⟩,
    ⟨"packages-dir", none, .single .filled⟩],
   [⟨"quiet", "verbose"⟩]⟩

def read (arguments : List String) : Except Stop (Invocation Command) :=
  Invocation.read shared program arguments

end Command

/-- What is asked for beside a command. -/
structure Preferences where
  verbosity : Nat
  isQuiet : Bool
  noColor : Bool
  settingsFile : Option Path
  format : Format
  packagesDirectory : Option String
  deriving DecidableEq, Repr

namespace Preferences

/-- The values of a variable that leave a preference alone. -/
def isRefusal (value : String) : Bool :=
  value.toLower ∈ ["", "0", "n", "no", "f", "false", "off"]

/-- Whether the environment asks for no colours. -/
def colorsRefused (environment : Environment) : Bool :=
  match environment.valueOf? "NO_COLOR" with
  | some value => !isRefusal value
  | none => false

def ofInvocation (environment : Environment) (invocation : Invocation Command) :
    Preferences where
  verbosity := (invocation.values "verbose").length
  isQuiet := invocation.has "quiet"
  noColor := invocation.has "no-color" || colorsRefused environment
  settingsFile := (invocation.value? "config").map Path.mk
  format := ((invocation.value? "output-format").bind Format.ofWord?).getD .auto
  packagesDirectory := invocation.value? "packages-dir"

end Preferences

end PackageIndex.CommandLine
