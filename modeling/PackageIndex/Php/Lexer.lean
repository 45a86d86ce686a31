import PackageIndex.Php.Template
import Std.Data.HashSet

/-!
# The next token

Which token comes next depends on what is expected: a word is a keyword only where that keyword
may stand, and of several tokens that would fit the longest is taken. The end of a stretch of code
ends a statement where a statement may end, and counts as a gap anywhere else.
-/
namespace PackageIndex.Php

/-- Where reading stands in a source file. -/
structure Reader where
  text : List Char
  /-- A bound on how many characters are left. -/
  bound : Nat
  position : Position
  /-- The label that is to end the string with a label in which reading stands. -/
  label? : Option (List Char)

/-- What is expected: a test, and the signs among what may ever be expected. -/
structure Expectation where
  allows : Terminal → Bool
  signs : List (List Char × Terminal)

/-- Keywords that take precedence over one and the same word in lower case, and over a number. -/
def strongWords : List String :=
  ["array", "static", "string", "int", "float", "bool", "null", "true", "false", "unset",
   "namespace"]

/-- What a word is. -/
def wordTerminal? (allows : Terminal → Bool) (text : String) (isFloat : Bool) :
    Option Terminal :=
  let lower := Text.lowered text
  let word := Terminal.word lower
  if lower ∈ strongWords ∧ allows word then some word
  else if isFloat ∧ allows .float then some .float
  else if allows (.lowerWord text) then some (.lowerWord text)
  else if allows word then some word
  else if allows .name then some .name
  else none

/-- The longer of two tokens, the first if they are of one length. -/
def longer (first second : Option (Terminal × Nat)) : Option (Terminal × Nat) :=
  match first, second with
  | some a, some b => if a.2 < b.2 then some b else some a
  | none, other => other
  | other, none => other

/-- The longest sign that is expected here. -/
def sign? (expected : Expectation) (text : List Char) : Option (Terminal × Nat) :=
  expected.signs.foldl (fun found (sign, terminal) =>
    if (Text.dropStart? sign text).isSome && expected.allows terminal then
      longer found (some (terminal, sign.length))
    else found) none

def lexeme? (expected : Expectation) (terminal : Terminal) (length? : Option Nat) :
    Option (Terminal × Nat) :=
  length?.bind fun length => if expected.allows terminal then some (terminal, length) else none

/-- The token that the text begins with, and its length. -/
def token? (expected : Expectation) (text : List Char) : Option (Terminal × Nat) :=
  let word : Option (Terminal × Nat) :=
    (name? text).bind fun length =>
      (wordTerminal? expected.allows (String.ofList (text.take length))
        (float? text = some length)).map (·, length)
  let lexeme := lexeme? expected
  [lexeme .plainString (plainString? text), word, lexeme .float (float? text),
    lexeme .integer (integer? text), lexeme .escape (escape? text)].foldl longer
    (sign? expected text)

/-- Behind blanks and comments to the end of the line. -/
def behindGaps : (inComment : Bool) → List Char → List Char
  | _, [] => []
  | true, c :: rest => behindGaps (c ≠ '\n') rest
  | false, '/' :: '/' :: rest => behindGaps true rest
  | false, c :: rest => if isAsciiBlank c then behindGaps false rest else c :: rest

/-- What a token is, how many characters of gap stand before it, and how long it is. -/
structure Lexeme where
  terminal : Terminal
  skipped : Nat
  length : Nat

/-- The text of a string, if text is expected. -/
def textLexeme? (expected : Expectation) (label text : List Char) : Option Lexeme :=
  let styles : List Style := [.quoted, .shell, .labelled]
  let kinds := styles.flatMap fun style => [(style, true), (style, false)]
  match kinds.find? fun (style, after) => expected.allows (.text style after) with
  | some (style, after) =>
    (text? style label after text).map fun length => ⟨.text style after, 0, length⟩
  | none =>
    if expected.allows .plainLine then
      (plainLine? label text).map fun length => ⟨.plainLine, 0, length⟩
    else none

/-- The label that ends a string, wherever its line begins. -/
def labelEndLexeme? (expected : Expectation) (label? : Option (List Char)) (text : List Char) :
    Option Lexeme :=
  if expected.allows .labelEnd then
    let blanks := run isAsciiBlank text
    let word := (text.drop blanks).takeWhile isLabelLetter
    if label? = some word then some ⟨.labelEnd, blanks, word.length⟩ else none
  else none

/-- A label where a string begins, or the end of a statement in front of `?>`. -/
def markLexeme? (expected : Expectation) (label? : Option (List Char)) (text : List Char) :
    Option Lexeme :=
  if expected.allows .label then
    let rest := behindGaps false text
    let word := rest.takeWhile isLabelLetter
    if word.isEmpty ∨ label?.isSome then none
    else some ⟨.label, text.length - rest.length, word.length⟩
  else if expected.allows .codeEnd ∧ (Text.dropStart? ['?', '>'] (behindGaps false text)).isSome
  then some ⟨.codeEnd, 0, 0⟩
  else none

/-- Tokens that depend on more than their own characters come first. -/
def specialLexeme? (expected : Expectation) (reader : Reader) (text : List Char) :
    Option Lexeme :=
  (textLexeme? expected (reader.label?.getD []) text).or
    ((labelEndLexeme? expected reader.label? text).or
      (markLexeme? expected reader.label? text))

/-- A sign right behind the token before. -/
def joinedLexeme? (expected : Expectation) (text : List Char) : Option Lexeme :=
  match text with
  | c :: _ =>
    let terminal := Terminal.joined (String.singleton c)
    if expected.allows terminal then some ⟨terminal, 0, 1⟩ else none
  | [] => none

/-- What stands at the beginning of a text. -/
inductive Beginning where
  | lexeme (lexeme : Lexeme)
  /-- So many characters of gap, behind which tokens that depend on more may stand again. -/
  | gap (length : Nat)
  | finished
  | unknown

/-- Blanks are skipped in front of a token, but not a line end that is expected. -/
def beginning (expected : Expectation) : (skipped : Nat) → List Char → Beginning
  | _, [] => .finished
  | skipped, c :: rest =>
    match lexeme? expected .newline (newline? (c :: rest)) with
    | some (terminal, length) => .lexeme ⟨terminal, skipped, length⟩
    | none =>
      if isBlank c then beginning expected (skipped + 1) rest
      else
        let text := c :: rest
        let found := token? expected text
        let length := (found.map Prod.snd).getD 0
        match comment? text with
        | some comment =>
          if length < comment then .gap (skipped + comment) else lexemeOf skipped found
        | none =>
          if c = '?' ∧ rest.head? = some '>' then .gap (skipped + 2 + interlude (rest.drop 1))
          else lexemeOf skipped found
where
  lexemeOf (skipped : Nat) : Option (Terminal × Nat) → Beginning
    | some (terminal, length) => .lexeme ⟨terminal, skipped, length⟩
    | none => .unknown

/-- What reading on yields. -/
inductive Reading where
  | token (token : Token) (rest : Reader)
  | finished
  | unknown (position : Position)

/-- The token behind a gap. -/
def Reader.taken (reader : Reader) (gap : Nat) (lexeme : Lexeme) : Reading :=
  let skipped := reader.text.take (gap + lexeme.skipped)
  let behind := reader.text.drop (gap + lexeme.skipped)
  let word := behind.take lexeme.length
  let first := reader.position.afterAll skipped
  let last := first.afterAll word
  let label? := match lexeme.terminal with
    | .label => some word
    | .labelEnd => none
    | _ => reader.label?
  .token ⟨lexeme.terminal, String.ofList word, String.ofList skipped, first, last⟩
    ⟨behind.drop lexeme.length, reader.bound, last, label?⟩

def Reader.nextBehind (reader : Reader) (expected : Expectation) :
    (bound : Nat) → (gap : Nat) → List Char → Reading
  | 0, _, _ => .unknown reader.position
  | bound + 1, gap, text =>
    match specialLexeme? expected reader text with
    | some lexeme => reader.taken gap lexeme
    | none =>
      match (if gap = 0 then joinedLexeme? expected text else none) with
      | some lexeme => reader.taken gap lexeme
      | none =>
        match beginning expected 0 text with
        | .lexeme lexeme => reader.taken gap lexeme
        | .gap length => reader.nextBehind expected bound (gap + length) (text.drop length)
        | .finished => .finished
        | .unknown => .unknown (reader.position.afterAll (reader.text.take gap))

/-- The next token of those that are expected. -/
def Reader.next (reader : Reader) (expected : Expectation) : Reading :=
  reader.nextBehind expected (reader.bound + 1) 0 reader.text

/-- Behind the first opening tag of a source file; none if it has no code. -/
def Reader.ofSource? (source : String) : Option Reader :=
  let text := source.toList
  if hasCode text then
    let before := interlude text
    some ⟨text.drop before, text.length, Position.start.afterAll (text.take before), none⟩
  else none

end PackageIndex.Php
