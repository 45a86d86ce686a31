import PackageIndex.Json.Read
import PackageIndex.Setting

/-!
# TOML scalars

Strings in their four spellings, numbers and dates. A reader takes what it understands from the
front of a text and leaves the rest; numbers and dates are told apart only once all characters that
either may have are taken. A date is kept as the text it is usually written as.
-/
namespace PackageIndex.Toml

/-- Puts a character in front of a text that was read with what stands behind it. -/
def push (c : Char) : Option (List Char × List Char) → Option (List Char × List Char) :=
  Option.map fun (text, rest) => (c :: text, rest)

def isBlank (c : Char) : Bool := c = ' ' || c = '\t'

/-- The characters that only a line break or an escape may bring into a text. -/
def isControl (c : Char) : Bool := (c.toNat < 0x20 && c ≠ '\t') || c = '\x7f'

/-! ## Strings -/

def unescape? (c : Char) : Option Char :=
  match c with
  | '"' | '\\' => some c
  | 'b' => some '\x08'
  | 't' => some '\t'
  | 'n' => some '\n'
  | 'f' => some '\x0c'
  | 'r' => some '\r'
  | 'e' => some '\x1b'
  | _ => none

def numberIn? (base : Nat) (digits : List Char) : Option Nat :=
  digits.foldlM
    (fun n digit => do
      let value ← Json.hexValue? digit
      if value < base then some (n * base + value) else none)
    0

/-- The character of a code point; half of a surrogate pair is none. -/
def codePoint? (digits : List Char) : Option Char := do
  let n ← numberIn? 16 digits
  if n.isValidChar then some (Char.ofNat n) else none

/-- Whether nothing but blanks is left of the line. -/
def endsLine (text : List Char) : Bool :=
  match text.dropWhile isBlank with
  | '\n' :: _ | '\r' :: '\n' :: _ => true
  | _ => false

/-- A string after its opening quotes, one or three. With three it may go over several lines, and a
backslash at the end of a line joins it with the next text there is. -/
def quotedBody (lines : Bool) : (joining : Bool) → List Char → Option (List Char × List Char)
  | _, [] => none
  | _, '"' :: rest =>
    if ¬ lines then some ([], rest)
    else match rest with
    | '"' :: '"' :: '"' :: '"' :: rest => some (['"', '"'], rest)
    | '"' :: '"' :: '"' :: rest => some (['"'], rest)
    | '"' :: '"' :: rest => some ([], rest)
    | _ => push '"' (quotedBody lines false rest)
  | _, '\\' :: 'x' :: a :: b :: rest => do
    let c ← codePoint? [a, b]
    push c (quotedBody lines false rest)
  | _, '\\' :: 'u' :: a :: b :: c :: d :: rest => do
    let c ← codePoint? [a, b, c, d]
    push c (quotedBody lines false rest)
  | _, '\\' :: 'U' :: a :: b :: c :: d :: e :: f :: g :: h :: rest => do
    let c ← codePoint? [a, b, c, d, e, f, g, h]
    push c (quotedBody lines false rest)
  | _, '\\' :: c :: rest =>
    match unescape? c with
    | some c => push c (quotedBody lines false rest)
    | none => if lines && endsLine (c :: rest) then quotedBody lines true rest else none
  | joining, '\n' :: rest =>
    if ¬ lines then none
    else if joining then quotedBody lines true rest
    else push '\n' (quotedBody lines false rest)
  | joining, '\r' :: rest =>
    if ¬ (lines && rest.head? = some '\n') then none
    else if joining then quotedBody lines true rest
    else push '\r' (quotedBody lines false rest)
  | joining, c :: rest =>
    if joining && isBlank c then quotedBody lines true rest
    else if isControl c then none
    else push c (quotedBody lines false rest)

/-- A string in which nothing is escaped, after its opening quotes. -/
def literalBody (lines : Bool) : List Char → Option (List Char × List Char)
  | [] => none
  | '\x27' :: rest =>
    if ¬ lines then some ([], rest)
    else match rest with
    | '\x27' :: '\x27' :: '\x27' :: '\x27' :: rest => some (['\x27', '\x27'], rest)
    | '\x27' :: '\x27' :: '\x27' :: rest => some (['\x27'], rest)
    | '\x27' :: '\x27' :: rest => some ([], rest)
    | _ => push '\x27' (literalBody lines rest)
  | '\n' :: rest => if lines then push '\n' (literalBody lines rest) else none
  | '\r' :: rest =>
    if lines && rest.head? = some '\n' then push '\r' (literalBody lines rest) else none
  | c :: rest => if isControl c then none else push c (literalBody lines rest)

/-- The line break right after three quotes does not count. -/
def dropBreak : List Char → List Char
  | '\n' :: rest | '\r' :: '\n' :: rest => rest
  | text => text

def asText : Option (List Char × List Char) → Option (String × List Char) :=
  Option.map fun (text, rest) => (String.ofList text, rest)

/-- A string from its opening quote on. -/
def string? : List Char → Option (String × List Char)
  | '"' :: '"' :: '"' :: rest => asText (quotedBody true false (dropBreak rest))
  | '"' :: rest => asText (quotedBody false false rest)
  | '\x27' :: '\x27' :: '\x27' :: rest => asText (literalBody true (dropBreak rest))
  | '\x27' :: rest => asText (literalBody false rest)
  | _ => none

/-! ## Numbers -/

/-- Digits without the underscores between them, each of which has a digit on either side. -/
def groups? : (isDigit : Char → Bool) → List Char → Option (List Char)
  | _, [] => none
  | isDigit, [c] => if isDigit c then some [c] else none
  | isDigit, c :: '_' :: rest =>
    if isDigit c then (groups? isDigit rest).map (c :: ·) else none
  | isDigit, c :: rest => if isDigit c then (groups? isDigit rest).map (c :: ·) else none

def integer? (n : Int) : Option Setting :=
  if Setting.isWord n then some (.integer n) else none

def digitsIn? (base : Nat) (digits : List Char) : Option Setting := do
  let digits ← groups? (fun c => (Json.hexValue? c).isSome) digits
  let n ← numberIn? base digits
  integer? n

def decimal? (digits : List Char) : Option (List Char) := groups? Char.isDigit digits

/-- A whole part of a number has no zero in front. -/
def whole? (digits : List Char) : Option (List Char) := do
  let digits ← decimal? digits
  if 1 < digits.length && digits.head? = some '0' then none else some digits

def signed : List Char → Bool × List Char
  | '-' :: rest => (true, rest)
  | '+' :: rest => (false, rest)
  | text => (false, text)

def exponent? (text : List Char) : Option Int := do
  let (negative, digits) := signed text
  let digits ← decimal? digits
  let n ← numberIn? 10 digits
  some (if negative then -n else n)

/-- Further from the point no digit makes a difference to a double. -/
def farthest : Int := 2000

/-- The double nearest to `digits * 10 ^ exponent`. -/
def nearest? (digits : Nat) (exponent : Int) : Option Binary64 :=
  if digits = 0 then some .zero
  else if farthest < exponent then none
  else if exponent < -farthest - Decimal.length digits then some .zero
  else Binary64.ofRatio? (digits * Nat.pow 10 exponent.toNat) (Nat.pow 10 (-exponent).toNat)

def isMark (c : Char) : Bool := c = 'e' || c = 'E'

def real? (negative : Bool) (text : List Char) : Option Setting := do
  let plain := text.takeWhile fun c => !isMark c
  let whole ← whole? (plain.takeWhile fun c => c ≠ '.')
  let part ← match plain.dropWhile fun c => c ≠ '.' with
    | [] => some []
    | _ :: digits => decimal? digits
  let exponent ← match text.dropWhile fun c => !isMark c with
    | [] => some 0
    | _ :: rest => exponent? rest
  let digits ← numberIn? 10 (whole ++ part)
  let value ← nearest? digits (exponent - part.length)
  some (.real (.finite (value.withSign negative)))

def number? (token : List Char) : Option Setting :=
  match token with
  | '0' :: 'x' :: digits => digitsIn? 16 digits
  | '0' :: 'o' :: digits => digitsIn? 8 digits
  | '0' :: 'b' :: digits => digitsIn? 2 digits
  | _ =>
    let (negative, text) := signed token
    if text = ['i', 'n', 'f'] then some (.real (.infinite negative))
    else if text = ['n', 'a', 'n'] then some (.real .undefined)
    else if text.any fun c => c = '.' || isMark c then real? negative text
    else do
      let digits ← whole? text
      let n ← numberIn? 10 digits
      integer? (if negative then -n else n)

/-! ## Dates -/

/-- A number of exactly so many digits. -/
def fixed? (length : Nat) (text : List Char) : Option (Nat × List Char) :=
  let digits := text.take length
  if digits.length = length && digits.all Char.isDigit then
    (numberIn? 10 digits).map fun n => (n, text.drop length)
  else none

def padded (length n : Nat) : String :=
  let digits := Nat.toDigits 10 n
  String.ofList (List.replicate (length - digits.length) '0' ++ digits)

def isLeap (year : Nat) : Bool := year % 4 = 0 && (year % 100 ≠ 0 || year % 400 = 0)

def daysIn (year month : Nat) : Nat :=
  match month with
  | 4 | 6 | 9 | 11 => 30
  | 2 => if isLeap year then 29 else 28
  | _ => 31

def expect (c : Char) : List Char → Option (List Char)
  | first :: rest => if first = c then some rest else none
  | [] => none

def date? (text : List Char) : Option (String × List Char) := do
  let (year, text) ← fixed? 4 text
  let text ← expect '-' text
  let (month, text) ← fixed? 2 text
  let text ← expect '-' text
  let (day, text) ← fixed? 2 text
  if 1 ≤ month ∧ month ≤ 12 ∧ 1 ≤ day ∧ day ≤ daysIn year month then
    some (padded 4 year ++ "-" ++ padded 2 month ++ "-" ++ padded 2 day, text)
  else none

def clock? (text : List Char) : Option ((Nat × Nat) × List Char) := do
  let (hour, text) ← fixed? 2 text
  let text ← expect ':' text
  let (minute, text) ← fixed? 2 text
  if hour < 24 ∧ minute < 60 then some ((hour, minute), text) else none

/-- Parts of a second, to nine places and without zeros at the end but for one after the point. -/
def partText (digits : List Char) : String :=
  match ((digits.take 9).reverse.dropWhile fun c => c = '0').reverse with
  | [] => ".0"
  | digits => "." ++ String.ofList digits

/-- A time of day, which may go without seconds. -/
def time? (text : List Char) : Option (String × List Char) := do
  let ((hour, minute), text) ← clock? text
  let start := padded 2 hour ++ ":" ++ padded 2 minute
  match text with
  | ':' :: text => do
    let (second, text) ← fixed? 2 text
    if 60 < second then none
    else match text with
    | '.' :: text =>
      match text.takeWhile Char.isDigit with
      | [] => none
      | digits =>
        some (start ++ ":" ++ padded 2 second ++ partText digits, text.dropWhile Char.isDigit)
    | text => some (start ++ ":" ++ padded 2 second, text)
  | text => some (start, text)

/-- The offset of a time; one of nothing has a plus. -/
def offset? (text : List Char) : Option String :=
  let shift (sign : String) (text : List Char) : Option String := do
    let ((hour, minute), text) ← clock? text
    let sign := if hour = 0 ∧ minute = 0 then "+" else sign
    if text = [] then some (sign ++ padded 2 hour ++ ":" ++ padded 2 minute) else none
  match text with
  | [] => some ""
  | ['z'] | ['Z'] => some "Z"
  | '+' :: text => shift "+" text
  | '-' :: text => shift "-" text
  | _ => none

/-- A date, a time of day, or both with or without an offset. -/
def moment? (token : List Char) : Option String :=
  match date? token with
  | some (date, []) => some date
  | some (date, mark :: text) =>
    if mark = 'T' ∨ mark = 't' ∨ mark = ' ' then do
      let (time, text) ← time? text
      let offset ← offset? text
      some (date ++ "T" ++ time ++ offset)
    else none
  | none =>
    match time? token with
    | some (time, []) => some time
    | _ => none

/-! ## Any scalar -/

def isTokenCharacter (c : Char) : Bool :=
  c.isAlphanum || c = '+' || c = '-' || c = '_' || c = '.' || c = ':'

/-- The characters of a scalar without quotes. A date may have its time after one blank. -/
def takeToken (text : List Char) : List Char × List Char :=
  let token := text.takeWhile isTokenCharacter
  let rest := text.dropWhile isTokenCharacter
  match date? token, rest with
  | some (_, []), ' ' :: digit :: rest =>
    if digit.isDigit then
      (token ++ ' ' :: (digit :: rest).takeWhile isTokenCharacter,
        (digit :: rest).dropWhile isTokenCharacter)
    else (token, ' ' :: digit :: rest)
  | _, rest => (token, rest)

def scalarOf? (token : List Char) : Option Setting :=
  if token = ['t', 'r', 'u', 'e'] then some (.flag true)
  else if token = ['f', 'a', 'l', 's', 'e'] then some (.flag false)
  else match number? token with
  | some value => some value
  | none => (moment? token).map .text

def scalar? (text : List Char) : Option (Setting × List Char) :=
  match text with
  | '"' :: _ | '\x27' :: _ => (string? text).map fun (s, rest) => (.text s, rest)
  | _ =>
    let (token, rest) := takeToken text
    (scalarOf? token).map fun value => (value, rest)

end PackageIndex.Toml
