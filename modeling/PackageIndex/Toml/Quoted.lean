import PackageIndex.Json.Render

/-!
# Writing TOML strings

Of the four spellings of a string the plainest that needs no escapes is taken; only a text that
has to be escaped in all of them is.
-/
namespace PackageIndex.Toml

/-- How often a character stands in a row at most. -/
def longestRun (c : Char) (text : List Char) : Nat :=
  let rec go : (run longest : Nat) → List Char → Nat
    | _, longest, [] => longest
    | run, longest, first :: rest =>
      if first = c then go (run + 1) (max longest (run + 1)) rest else go 0 longest rest
  go 0 0 text

/-- The characters that no unescaped string holds. -/
def hasCode (text : List Char) : Bool :=
  text.any fun c => (c.toNat < 0x20 && c ≠ '\t' && c ≠ '\n') || c = '\x7f'

def escape (c : Char) : List Char :=
  if c = '"' then ['\\', '"']
  else if c = '\\' then ['\\', '\\']
  else if c = '\x08' then ['\\', 'b']
  else if c = '\t' then ['\\', 't']
  else if c = '\n' then ['\\', 'n']
  else if c = '\x0c' then ['\\', 'f']
  else if c = '\r' then ['\\', 'r']
  else if c.toNat < 0x20 ∨ c = '\x7f' then
    ['\\', 'u', '0', '0', (Json.hexDigit (c.toNat / 16)).toUpper, (Json.hexDigit c.toNat).toUpper]
  else [c]

/-- Over several lines a line break stands for itself, and of three quotes in a row the last one is
escaped. `quotes` counts those just before. -/
def escapeLines : (quotes : Nat) → List Char → List Char
  | _, [] => []
  | quotes, '"' :: rest =>
    if quotes < 2 then '"' :: escapeLines (quotes + 1) rest else escape '"' ++ escapeLines 0 rest
  | _, '\n' :: rest => '\n' :: escapeLines 0 rest
  | _, c :: rest => escape c ++ escapeLines 0 rest

def escapeTab (c : Char) : List Char := if c = '\t' then ['\\', 't'] else [c]

/-- A text over several lines begins on a line of its own. -/
def opening (text : List Char) : List Char := if '\n' ∈ text then ['\n'] else []

def quotedChars (text : List Char) : List Char :=
  let quotes := longestRun '"' text
  let apostrophes := longestRun '\x27' text
  let isPlain := !hasCode text
  let isLine := '\n' ∉ text
  let isUnescaped := '\\' ∉ text
  if isPlain ∧ isUnescaped ∧ quotes = 0 ∧ isLine then '"' :: text.flatMap escapeTab ++ ['"']
  else if isPlain ∧ apostrophes = 0 ∧ isLine then '\x27' :: text ++ ['\x27']
  else if isPlain ∧ isUnescaped ∧ quotes ≤ 2 then
    ['"', '"', '"'] ++ opening text ++ text.flatMap escapeTab ++ ['"', '"', '"']
  else if isPlain ∧ apostrophes ≤ 2 then
    ['\x27', '\x27', '\x27'] ++ opening text ++ text ++ ['\x27', '\x27', '\x27']
  else if isLine then '"' :: text.flatMap escape ++ ['"']
  else ['"', '"', '"', '\n'] ++ escapeLines 0 text ++ ['"', '"', '"']

def quoted (text : String) : String := String.ofList (quotedChars text.toList)

end PackageIndex.Toml
