/-!
# Tokens of PHP source

A source file is text in which stretches of code stand between `<?php` and `?>`. Its code is cut
into tokens; blanks, comments and the text between stretches of code belong to the gap before the
token that follows. A token knows the lines it stands on, so that what is built from tokens does
too.
-/
namespace PackageIndex.Php

/-- What a string with parts to evaluate is written in. -/
inductive Style where
  /-- Between double quotes. -/
  | quoted
  /-- Between back quotes. -/
  | shell
  /-- In lines that a label ends. -/
  | labelled
  deriving DecidableEq, Repr, Hashable

/-- What a grammar expects in one place. -/
inductive Terminal where
  /-- A keyword in upper or lower case. -/
  | word (text : String)
  /-- A keyword in lower case. -/
  | lowerWord (text : String)
  | sign (text : String)
  /-- A sign right behind what stands before it. -/
  | joined (text : String)
  | name
  | integer
  | float
  /-- A string without anything to evaluate in it. -/
  | plainString
  /-- Text in a string with parts to evaluate, perhaps right behind a variable. -/
  | text (style : Style) (afterVariable : Bool)
  /-- A character written with a backslash, in such a string. -/
  | escape
  /-- A line of a string that has a label and no parts to evaluate. -/
  | plainLine
  | newline
  /-- The label of a string where it begins, and where it ends the string. -/
  | label
  | labelEnd
  /-- The end of a statement where the code ends. -/
  | codeEnd
  deriving DecidableEq, Repr, Hashable

structure Position where
  line : Nat
  column : Nat
  deriving DecidableEq, Repr

namespace Position

def start : Position := ⟨1, 1⟩

def after (position : Position) (c : Char) : Position :=
  if c = '\n' then ⟨position.line + 1, 1⟩ else ⟨position.line, position.column + 1⟩

def afterAll (position : Position) (text : List Char) : Position := text.foldl after position

end Position

structure Token where
  terminal : Terminal
  text : String
  /-- What stands between the token before and this one. -/
  gap : String
  first : Position
  /-- Where the token ends, one column behind it. -/
  last : Position
  deriving DecidableEq, Repr

end PackageIndex.Php
