import PackageIndex.Json.Draft

/-!
# Reading JSON

A text is read once, from left to right, into a draft and the rest of the text. Every step into a
value, an item or a member counts down a bound that the length of the text sets and that is never
reached.
-/
namespace PackageIndex.Json

def isBlank (c : Char) : Bool := c = ' ' || c = '\n' || c = '\t' || c = '\r'

def skipBlank (text : List Char) : List Char := text.dropWhile isBlank

/-! ## Strings -/

/-- What stands for one character of a string, or for half of one. -/
inductive Unit16 where
  | char (c : Char)
  | hex (n : Nat)
  deriving DecidableEq, Repr

/-- How a string ends: closed with the rest of the text, or in one of four faults. -/
inductive StringEnd where
  | closed (rest : List Char)
  | textEnd
  | control
  | badEscape
  | badHex

def StringEnd.fault? : StringEnd → Option Malformed
  | closed _ => none
  | textEnd => some .endInString
  | control => some .controlCharacter
  | badEscape | badHex => some .invalidEscape

def hexValue? (c : Char) : Option Nat :=
  if c.isDigit then some (c.toNat - '0'.toNat)
  else if 'a' ≤ c ∧ c ≤ 'f' then some (c.toNat - 'a'.toNat + 10)
  else if 'A' ≤ c ∧ c ≤ 'F' then some (c.toNat - 'A'.toNat + 10)
  else none

def hex4? (a b c d : Char) : Option Nat := do
  let a ← hexValue? a
  let b ← hexValue? b
  let c ← hexValue? c
  let d ← hexValue? d
  pure (((a * 16 + b) * 16 + c) * 16 + d)

/-- The characters that stand for themselves or another one after a backslash. -/
def unescape? (c : Char) : Option Char :=
  match c with
  | '"' | '\\' | '/' => some c
  | 'b' => some '\x08'
  | 'f' => some '\x0c'
  | 'n' => some '\n'
  | 'r' => some '\r'
  | 't' => some '\t'
  | _ => none

/-- Whether four bytes of text are left. -/
def hasFourBytes (text : List Char) : Bool :=
  4 ≤ (String.ofList (text.take 4)).utf8ByteSize

/-- A string after its opening quote. -/
def readUnits : List Char → List Unit16 × StringEnd
  | [] => ([], .textEnd)
  | '"' :: rest => ([], .closed rest)
  | '\\' :: [] => ([], .textEnd)
  | '\\' :: 'u' :: a :: b :: c :: d :: rest =>
    match hex4? a b c d with
    | some n =>
      let (units, last) := readUnits rest
      (.hex n :: units, last)
    | none => ([], .badHex)
  | '\\' :: 'u' :: rest => ([], if hasFourBytes rest then .badHex else .textEnd)
  | '\\' :: c :: rest =>
    match unescape? c with
    | some c =>
      let (units, last) := readUnits rest
      (.char c :: units, last)
    | none => ([], .badEscape)
  | c :: rest =>
    if c.toNat < 0x20 then ([], .control)
    else
      let (units, last) := readUnits rest
      (.char c :: units, last)

def isLeading (n : Nat) : Bool := 0xD800 ≤ n && n ≤ 0xDBFF
def isTrailing (n : Nat) : Bool := 0xDC00 ≤ n && n ≤ 0xDFFF

def pairValue (leading trailing : Nat) : Char :=
  Char.ofNat ((leading - 0xD800) * 0x400 + (trailing - 0xDC00) + 0x10000)

/-- The characters of a string; two halves make one, and a half on its own is a fault. -/
def joinUnits (last : StringEnd) : List Unit16 → Except Malformed (List Char)
  | [] =>
    match last.fault? with
    | some fault => .error fault
    | none => .ok []
  | .char c :: rest => (joinUnits last rest).map (c :: ·)
  | [.hex n] =>
    if isTrailing n then .error .loneSurrogate
    else if isLeading n then
      match last with
      | .textEnd => .error .endInString
      | .badHex => .error .invalidEscape
      | _ => .error .endOfHexEscape
    else (joinUnits last []).map (Char.ofNat n :: ·)
  | .hex n :: .hex m :: rest =>
    if isTrailing n then .error .loneSurrogate
    else if isLeading n then
      if isTrailing m then (joinUnits last rest).map (pairValue n m :: ·)
      else .error .loneSurrogate
    else (joinUnits last (.hex m :: rest)).map (Char.ofNat n :: ·)
  | .hex n :: .char c :: rest =>
    if isTrailing n then .error .loneSurrogate
    else if isLeading n then .error .endOfHexEscape
    else (joinUnits last (.char c :: rest)).map (Char.ofNat n :: ·)

/-- A piece of text that has been read, or the gap in which reading it ended. -/
inductive Lexed (α : Type) where
  | whole (kept : Except Malformed α) (rest : List Char)
  | cut (gap : Gap)

def readString (text : List Char) : Lexed String :=
  let (units, last) := readUnits text
  let kept := joinUnits last units
  match last, last.fault? with
  | .closed rest, _ => .whole (kept.map String.ofList) rest
  | _, none => .cut (.plain .endInString)
  | _, some fault =>
    match kept with
    | .error first => .cut ⟨first, fault, first⟩
    | .ok _ => .cut (.plain fault)

/-! ## Numbers -/

/-- A number cut off by the end of the text is incomplete for a reader that keeps it, and plainly
wrong for one that passes over it. -/
def cutNumber : List Char → Gap
  | [] => ⟨.endInValue, .invalidNumber, .endInValue⟩
  | _ :: _ => .plain .invalidNumber

def splitDigits (text : List Char) : List Char × List Char := text.span Char.isDigit

/-- The digits before the point; a zero stands alone. -/
def readWhole (text : List Char) : Except Gap (List Char × List Char) :=
  match splitDigits text with
  | ([], rest) => .error (cutNumber rest)
  | ('0' :: _ :: _, _) => .error (.plain .invalidNumber)
  | (digits, rest) => .ok (digits, rest)

def readFraction (text : List Char) : Except Gap (Option (List Char) × List Char) :=
  match text with
  | '.' :: rest =>
    match splitDigits rest with
    | ([], rest) => .error (cutNumber rest)
    | (digits, rest) => .ok (some digits, rest)
  | _ => .ok (none, text)

def digitsValue (digits : List Char) : Nat :=
  digits.foldl (fun n digit => n * 10 + Number.digitValue digit) 0

def readExponent (text : List Char) : Except Gap (Option Int × List Char) :=
  match text with
  | mark :: rest =>
    if mark = 'e' ∨ mark = 'E' then
      let (negative, rest) := match rest with
        | '-' :: rest => (true, rest)
        | '+' :: rest => (false, rest)
        | rest => (false, rest)
      match splitDigits rest with
      | ([], rest) => .error (cutNumber rest)
      | (digits, rest) =>
        let exponent : Int := digitsValue digits
        .ok (some (if negative then -exponent else exponent), rest)
    else .ok (none, text)
  | [] => .ok (none, text)

def readLiteral (text : List Char) : Except Gap (Number.Literal × List Char) := do
  let (negative, text) := match text with
    | '-' :: rest => (true, rest)
    | text => (false, text)
  let (whole, text) ← readWhole text
  let (fraction, text) ← readFraction text
  let (exponent, text) ← readExponent text
  pure (⟨negative, whole, fraction, exponent⟩, text)

def readNumber (text : List Char) : Lexed Number :=
  match readLiteral text with
  | .error gap => .cut gap
  | .ok (literal, rest) =>
    match Number.ofLiteral? literal with
    | some number => .whole (.ok number) rest
    | none => .whole (.error .numberOutOfRange) rest

/-! ## Values -/

/-- The rest of a word whose first letter has been seen. -/
def readWord : (word text : List Char) → Except Malformed (List Char)
  | [], text => .ok text
  | _ :: _, [] => .error .endInValue
  | a :: word, b :: text => if a = b then readWord word text else .error .expectedIdent

def stop (fault : Malformed) : Draft × Option (List Char) := (.broken (.plain fault), none)

def readNamed (draft : Draft) (word text : List Char) : Draft × Option (List Char) :=
  match readWord word text with
  | .ok rest => (draft, some rest)
  | .error fault => stop fault

mutual
def readValue : (bound : Nat) → List Char → Draft × Option (List Char)
  | 0, _ => stop .endInValue
  | bound + 1, text =>
    match skipBlank text with
    | [] => stop .endInValue
    | 'n' :: rest => readNamed .null ['u', 'l', 'l'] rest
    | 't' :: rest => readNamed (.bool true) ['r', 'u', 'e'] rest
    | 'f' :: rest => readNamed (.bool false) ['a', 'l', 's', 'e'] rest
    | '"' :: rest =>
      match readString rest with
      | .whole kept rest => (.string kept, some rest)
      | .cut gap => (.broken gap, none)
    | '[' :: rest =>
      match skipBlank rest with
      | [] => (.array (.cut (.plain .endInList)), none)
      | ']' :: rest => (.array .done, some rest)
      | rest =>
        let (items, rest) := readItems bound rest
        (.array items, rest)
    | '\x7b' :: rest =>
      match skipBlank rest with
      | [] => (.object (.cut (.plain .endInObject)), none)
      | '\x7d' :: rest => (.object .done, some rest)
      | '"' :: rest =>
        let (members, rest) := readMembers bound rest
        (.object members, rest)
      | _ => (.object (.cut (.plain .keyNotString)), none)
    | c :: rest =>
      if c = '-' ∨ c.isDigit then
        match readNumber (c :: rest) with
        | .whole kept rest => (.number kept, some rest)
        | .cut gap => (.broken gap, none)
      else stop .expectedValue
/-- The items from the first character of one on. -/
def readItems : (bound : Nat) → List Char → Items × Option (List Char)
  | 0, _ => (.cut (.plain .endInValue), none)
  | bound + 1, text =>
    match readValue bound text with
    | (item, none) => (.cons item .done, none)
    | (item, some rest) =>
      match skipBlank rest with
      | [] => (.cons item (.cut (.plain .endInList)), none)
      | ']' :: rest => (.cons item .done, some rest)
      | ',' :: rest =>
        match skipBlank rest with
        | [] => (.cons item (.cut ⟨.endInValue, .endInValue, .trailingCharacters⟩), none)
        | ']' :: _ => (.cons item (.cut ⟨.trailingComma, .expectedValue, .trailingComma⟩), none)
        | rest =>
          let (items, rest) := readItems bound rest
          (.cons item items, rest)
      | _ =>
        (.cons item (.cut ⟨.expectedListEnd, .expectedListEnd, .trailingCharacters⟩), none)
/-- The members from after the opening quote of a name on. -/
def readMembers : (bound : Nat) → List Char → Members × Option (List Char)
  | 0, _ => (.cut (.plain .endInValue), none)
  | bound + 1, text =>
    match readString text with
    | .cut gap => (.cut gap, none)
    | .whole name rest =>
      match skipBlank rest with
      | [] => (.cons name (.broken (.plain .endInObject)) .done, none)
      | ':' :: rest =>
        match readValue bound rest with
        | (value, none) => (.cons name value .done, none)
        | (value, some rest) =>
          match skipBlank rest with
          | [] => (.cons name value (.cut (.plain .endInObject)), none)
          | '\x7d' :: rest => (.cons name value .done, some rest)
          | ',' :: rest =>
            match skipBlank rest with
            | [] =>
              (.cons name value (.cut ⟨.endInValue, .endInObject, .endInValue⟩), none)
            | '"' :: rest =>
              let (members, rest) := readMembers bound rest
              (.cons name value members, rest)
            | '\x7d' :: _ =>
              (.cons name value (.cut ⟨.trailingComma, .keyNotString, .trailingComma⟩), none)
            | _ => (.cons name value (.cut (.plain .keyNotString)), none)
          | _ => (.cons name value (.cut (.plain .expectedObjectEnd)), none)
      | _ => (.cons name (.broken (.plain .expectedColon)) .done, none)
end

/-- A text as a draft and, if nothing is broken, what follows the value. -/
def read (text : String) : Draft × Option (List Char) :=
  readValue (2 * text.toList.length + 2) text.toList

/-- The fault of a text that goes on after its value. -/
def finish (rest : Option (List Char)) : Except Malformed Unit :=
  match rest with
  | none => .ok ()
  | some rest => if skipBlank rest = [] then .ok () else .error .trailingCharacters

end PackageIndex.Json
