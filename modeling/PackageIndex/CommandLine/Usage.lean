import PackageIndex.CommandLine.Command

/-!
# Usage

What a person is told about the commands, and what a shell is told to complete them.
-/
namespace PackageIndex.CommandLine

def version : String := "rigger 0.1.0\n"

namespace Usage

def optionText (option : OptionSpec) : String :=
  (match option.short with
    | some letter => "-" ++ letter.toString ++ ", "
    | none => "")
    ++ "--" ++ option.name
    ++ match option.check? with
      | none => ""
      | some (.oneOf choices) => " " ++ Text.join '|' choices
      | some _ => " VALUE"

def operandText (operand : Operand) : String :=
  match operand.check with
  | .oneOf choices => Text.join '|' choices
  | _ => operand.name

mutual
/-- A line for every command, with the names that lead to it. -/
def lines (path : String) : Spec Command → List String
  | .command name options operands _ =>
    [Text.join ' ' ((path ++ name) :: operands.map operandText
      ++ options.map fun option => "[" ++ optionText option ++ "]")]
  | .group name members => linesOf (path ++ name ++ " ") members
  | .named _ spec => lines path spec
def linesOf (path : String) : List (Spec Command) → List String
  | [] => []
  | spec :: rest => lines path spec ++ linesOf path rest
end

def indented (lines : List String) : String :=
  String.join (lines.map fun line => "  " ++ line ++ "\n")

def text : String :=
  "Autoloader and routing manifests for PHP packages\n\nCommands:\n"
    ++ indented (lines "" Command.program)
    ++ "\nOptions:\n" ++ indented ((Command.shared.options ++ [Shared.helpOption]).map optionText)

/-- What is said about arguments that cannot be understood. -/
def complaint : String := "error: the arguments could not be understood\n\n" ++ text

/-! ## Completion -/

mutual
def words : Spec Command → List String
  | .command name options _ _ => name :: options.map fun option => "--" ++ option.name
  | .group name members => name :: wordsOf members
  | .named name spec => name :: words spec
def wordsOf : List (Spec Command) → List String
  | [] => []
  | spec :: rest => words spec ++ wordsOf rest
end

def allWords : String :=
  Text.join ' ' ((words Command.program).tail ++ Command.shared.options.map fun option =>
    "--" ++ option.name)

def completion : Shell → String
  | .bash => "complete -W \"" ++ allWords ++ "\" rigger\n"
  | .zsh => "#compdef rigger\n_arguments '*: :(" ++ allWords ++ ")'\n"
  | .fish => "complete -c rigger -a \"" ++ allWords ++ "\"\n"
  | .powerShell =>
    "Register-ArgumentCompleter -Native -CommandName rigger -ScriptBlock \x7b '" ++ allWords
      ++ "' -split ' ' \x7d\n"
  | .elvish => "set edit:completion:arg-completer[rigger] = \x7b|@a| put " ++ allWords ++ " \x7d\n"

end Usage

end PackageIndex.CommandLine
