import PackageIndex.Text

/-!
# The extent of lexemes

How many characters of a text a name, a number, a comment or a plain string takes, if the text
begins with one.
-/
namespace PackageIndex.Php

/-! ## Characters -/

/-- Any character beyond ASCII may stand in a name, except blanks and marks that are invisible. -/
def isNameInitial (c : Char) : Bool :=
  c.isAlpha || c = '_'
    || ('\u0080' ≤ c && c ≤ '\u009f') || ('\u00a1' ≤ c && c ≤ '\u200a')
    || ('\u200c' ≤ c && c ≤ '\u205f') || ('\u2061' ≤ c && c ≤ '\ufefe')
    || ('\uff00' ≤ c && c ≤ '\uffff')

def isNameLater (c : Char) : Bool := isNameInitial c || c.isDigit

/-- Labels and variables in strings take any character beyond ASCII. -/
def isLabelLetter (c : Char) : Bool := c.isAlphanum || c = '_' || '\u0080' ≤ c

def isAsciiBlank (c : Char) : Bool := c = ' ' || ('\t' ≤ c && c ≤ '\r')

def isBlank (c : Char) : Bool :=
  isAsciiBlank c || c ∈ ['\u00a0', '\u200b', '\u2060', '\ufeff']

def isLineEnd (c : Char) : Bool := c = '\n' || c = '\r'

def isHexDigit (c : Char) : Bool :=
  c.isDigit || ('a' ≤ c && c ≤ 'f') || ('A' ≤ c && c ≤ 'F')

def isOctalDigit (c : Char) : Bool := '0' ≤ c && c ≤ '7'

/-- How many characters of a kind a text begins with. -/
def run (isKind : Char → Bool) : List Char → Nat
  | [] => 0
  | c :: rest => if isKind c then run isKind rest + 1 else 0

/-! ## Names and comments -/

def name? : List Char → Option Nat
  | [] => none
  | c :: rest => if isNameInitial c then some (run isNameLater rest + 1) else none

/-- The rest of a comment that the end of the line ends. It ends before `?>` as well; a question
mark takes the character behind it along. One at the end of the line takes the line end. -/
def lineComment : List Char → Nat
  | [] => 0
  | '?' :: '\n' :: _ => 2
  | '?' :: '\r' :: '\n' :: _ => 3
  | '?' :: c :: rest => if c = '>' ∨ c = '\r' then 0 else lineComment rest + 2
  | c :: rest => if isLineEnd c ∨ c = '?' then 0 else lineComment rest + 1

/-- How many characters there are up to and including the end of a block comment. -/
def blockComment : List Char → Option Nat
  | [] => none
  | '*' :: '/' :: _ => some 2
  | _ :: rest => (blockComment rest).map (· + 1)

def comment? : List Char → Option Nat
  | '/' :: '/' :: rest => some (lineComment rest + 2)
  | '/' :: '*' :: rest => (blockComment rest).map (· + 2)
  | '#' :: c :: rest =>
    if c = '?' ∨ c = '[' ∨ isLineEnd c then some 1 else some (lineComment rest + 2)
  | '#' :: [] => some 1
  | _ => none

/-! ## Numbers -/

/-- Digits, with single underscores in front of some of them. -/
def digitGroups (isDigit : Char → Bool) : List Char → Nat
  | [] => 0
  | c :: rest =>
    if isDigit c ∨ (c = '_' ∧ (rest.head?.map isDigit).getD false) then
      digitGroups isDigit rest + 1
    else 0

/-- The same, beginning with a digit. -/
def digits? (isDigit : Char → Bool) (text : List Char) : Option Nat :=
  if (text.head?.map isDigit).getD false then some (digitGroups isDigit text) else none

/-- A leading zero makes an octal number; the digits behind it may be missing. -/
def integer? : List Char → Option Nat
  | '0' :: rest =>
    let octal (skipped : Nat) : Nat :=
      skipped + 1 + digitGroups isOctalDigit (rest.drop skipped)
    match rest with
    | [] => some 1
    | c :: digits =>
      if c = 'x' ∨ c = 'X' then some (((digits? isHexDigit digits).map (· + 2)).getD 1)
      else if c = 'b' ∨ c = 'B' then
        some (((digits? (fun c => c = '0' ∨ c = '1') digits).map (· + 2)).getD 1)
      else if c = 'o' ∨ c = 'O' then some (octal 1)
      else some (octal 0)
  | text => digits? Char.isDigit text

/-- The power of ten at the end of a number. -/
def exponent? : List Char → Option Nat
  | e :: rest =>
    if e = 'e' ∨ e = 'E' then
      match rest with
      | sign :: digits =>
        if sign = '+' ∨ sign = '-' then (digits? Char.isDigit digits).map (· + 2)
        else (digits? Char.isDigit rest).map (· + 1)
      | [] => none
    else none
  | [] => none

/-- A number with a point or a power of ten; every digit before the power may be missing, so that
a point alone is a number, and so is a power of ten alone. -/
def float? (text : List Char) : Option Nat :=
  let whole := digitGroups Char.isDigit text
  let rest := text.drop whole
  match rest with
  | '.' :: places =>
    let count := whole + 1 + digitGroups Char.isDigit places
    some (count + (exponent? (text.drop count)).getD 0)
  | _ => (exponent? rest).map (whole + ·)

/-! ## Strings -/

/-- How many characters there are up to and including the quote that ends a plain string. -/
def plainRest : List Char → Option Nat
  | [] => none
  | '\x27' :: _ => some 1
  | '\\' :: _ :: rest => (plainRest rest).map (· + 2)
  | _ :: rest => (plainRest rest).map (· + 1)

def plainString? : List Char → Option Nat
  | '\x27' :: rest => (plainRest rest).map (· + 1)
  | 'b' :: '\x27' :: rest | 'B' :: '\x27' :: rest => (plainRest rest).map (· + 2)
  | _ => none

def newline? : List Char → Option Nat
  | '\n' :: _ => some 1
  | '\r' :: '\n' :: _ => some 2
  | '\r' :: _ => some 1
  | _ => none

/-- A character written with a backslash. -/
def escape? : List Char → Option Nat
  | '\\' :: c :: rest =>
    if c ∈ ['n', 'r', 't', 'v', 'e', 'f', '\\', '$', '"', '\x60'] then some 2
    else if isOctalDigit c then some (min 2 (run isOctalDigit rest) + 2)
    else if c = 'x' then
      match run isHexDigit rest with
      | 0 => none
      | count => some (min 2 count + 2)
    else if c = 'u' then
      match rest with
      | '\x7b' :: digits =>
        let count := run isHexDigit digits
        if count ≠ 0 ∧ (digits.drop count).head? = some '\x7d' then some (count + 4) else none
      | _ => none
    else none
  | _ => none

/-! ## Text between stretches of code -/

/-- How many characters there are up to the next stretch of code, its opening tag included; all of
them when there is none. -/
def interlude : List Char → Nat
  | [] => 0
  | '<' :: '?' :: rest =>
    match rest with
    | '=' :: _ => 3
    | p :: h :: q :: _ =>
      if p.toLower = 'p' ∧ h.toLower = 'h' ∧ q.toLower = 'p' then 5 else 2
    | _ => 2
  | _ :: rest => interlude rest + 1

/-- Whether there is a next stretch of code. -/
def hasCode : List Char → Bool
  | [] => false
  | '<' :: '?' :: _ => true
  | _ :: rest => hasCode rest

end PackageIndex.Php
