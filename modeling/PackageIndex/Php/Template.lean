import PackageIndex.Php.Lexeme
import PackageIndex.Php.Token

/-!
# Text in strings

The text between the parts of a string with parts to evaluate, and the lines of a string that a
label ends. Such text ends where a part or an escape begins, or where the string does.
-/
namespace PackageIndex.Php

/-- Whether the characters behind a backslash make an escape. -/
def isEscapable : List Char → Bool
  | [] => false
  | 'x' :: rest => (rest.head?.map isHexDigit).getD false
  | c :: _ => c ∈ ['n', 'r', 't', 'v', 'e', 'f', '\\', '$', '"', 'u'] || isOctalDigit c

def startsWithLabelLetter (text : List Char) : Bool := (text.head?.map isLabelLetter).getD false

/-- What comes next in a string. -/
inductive Portion where
  /-- So many characters of text. -/
  | content (length : Nat)
  | stop

/-- How much text a backslash is the first character of. -/
def behindBackslash (style : Style) (text : List Char) : Portion :=
  match text with
  | '\x7b' :: _ => .content 2
  | '\x60' :: _ => if style = .shell then .stop else .content 1
  | '\\' :: _ => if style = .labelled then .content 2 else .stop
  | 'x' :: _ => if isEscapable text then .stop else .content 2
  | _ => if isEscapable text then .stop else .content 1

/-- How much text a character is the first of; none if a part or the end of the string begins
with it. -/
def portion (style : Style) (c : Char) (rest : List Char) : Portion :=
  let stopIf (stop : Bool) : Portion := if stop then .stop else .content 1
  match c with
  | '"' => stopIf (style = .quoted)
  | '\x60' => stopIf (style = .shell)
  | '\n' | '\r' => stopIf (style = .labelled)
  | '\\' => behindBackslash style rest
  | '$' => stopIf (match rest with
      | d :: _ => d = '\x7b' || (isLabelLetter d && !d.isDigit)
      | [] => false)
  | '\x7b' => stopIf (rest.head? = some '$')
  | _ => .content 1

/-- The same right behind a variable, of which an index or a member may be asked. -/
def portionAfterVariable (style : Style) (c : Char) (rest : List Char) : Portion :=
  let member (skipped : Nat) (text : List Char) : Portion :=
    match text with
    | '>' :: name => if startsWithLabelLetter name then .stop else .content (skipped + 1)
    | _ => .content skipped
  match c, rest with
  | '[', _ => .stop
  | '-', _ => member 1 rest
  | '?', '-' :: later => member 2 later
  | _, _ => portion style c rest

/-- How much text there is before a part, an escape or the end of the string, the first `skipped`
characters being text in any case; none if the text never ends. -/
def textLength (style : Style) : (skipped : Nat) → List Char → Option Nat
  | _, [] => none
  | skipped + 1, _ :: rest => (textLength style skipped rest).map (· + 1)
  | 0, c :: rest =>
    match portion style c rest with
    | .stop => some 0
    | .content length => (textLength style (length - 1) rest).map (· + 1)

/-- How many characters two texts have in common at their beginnings. -/
def common : List Char → List Char → Nat
  | a :: s, b :: t => if a = b then common s t + 1 else 0
  | _, _ => 0

/-- How the beginning of a line bears on the label that is to end the string: the string ends
here, or so many characters are text whatever they are. -/
def lineStart (label text : List Char) : Portion :=
  let blanks := run isAsciiBlank text
  let shared := common label (text.drop blanks)
  let length := blanks + shared
  let rest := text.drop length
  let ends : Bool := shared = label.length && shared ≠ 0 &&
    (rest.head?.map fun c => isAsciiBlank c || c ∈ [';', ',', ')']).getD false
  if ends then
    let more := run (fun c => isAsciiBlank c && !isLineEnd c) rest
    match (rest.drop more).head? with
    | some c =>
      if isLineEnd c ∨ c ∈ [';', ',', ')'] then .stop else .content (length + more)
    | none => .content (length + more)
  else .content length

def positive (length : Nat) : Option Nat := if length = 0 then none else some length

/-- The text that stands next in a string with parts, if there is any. -/
def text? (style : Style) (label : List Char) (afterVariable : Bool) (text : List Char) :
    Option Nat :=
  let start : Portion := if style = .labelled then lineStart label text else .content 0
  match start with
  | .stop => none
  | .content skipped =>
    let rest := text.drop skipped
    let first : Portion :=
      match rest with
      | c :: later => if afterVariable then portionAfterVariable style c later else .content 0
      | [] => .content 0
    match first with
    | .stop => positive skipped
    | .content length =>
      (textLength style length rest).bind fun more => positive (skipped + more)

/-- The next line of a string without parts. A line begins with the end of the one before it. -/
def plainLine? (label text : List Char) : Option Nat :=
  match lineStart label text with
  | .stop => none
  | .content skipped =>
    let length := run (fun c => !isLineEnd c) (text.drop skipped)
    if (text.drop (skipped + length)).isEmpty then none else positive (skipped + length)

end PackageIndex.Php
