import PackageIndex.Text.Unmarked

/-!
# Quoted text

A text between double quotes, in which every character can be seen: quotes and backslashes are
escaped, and a character that leaves no mark is written by its code point.
-/
namespace PackageIndex.Text

def hexDigits (n : Nat) : String := String.ofList (Nat.toDigits 16 n)

def visible (c : Char) : String :=
  if c = '"' then "\\\""
  else if c = '\\' then "\\\\"
  else if c = '\n' then "\\n"
  else if c = '\r' then "\\r"
  else if c = '\t' then "\\t"
  else if c = '\x00' then "\\0"
  else if isUnmarked c then "\\u\x7b" ++ hexDigits c.toNat ++ "\x7d"
  else c.toString

def quoted (text : String) : String :=
  "\"" ++ String.join (text.toList.map visible) ++ "\""

end PackageIndex.Text
