import SqlBackend.Text.Visible

/-!
# Quoted text

The form in which error texts show a string: between double quotes, with a backslash before quotes
and backslashes, short names for tab, line feed, carriage return and NUL, and the code point in
braces for every other character that does not show.
-/

namespace SqlBackend.Text

/-- `n` in hexadecimal, without leading zeros. -/
def hexDigits (n : Nat) : List Char := Nat.toDigits 16 n

def showChar (c : Char) : List Char :=
  if c = Char.ofNat 0 then ['\\', '0']
  else if c = '\t' then ['\\', 't']
  else if c = '\r' then ['\\', 'r']
  else if c = '\n' then ['\\', 'n']
  else if c = '"' || c = '\\' then ['\\', c]
  else if isVisible c then [c]
  else ['\\', 'u', '\x7b'] ++ hexDigits c.toNat ++ ['\x7d']

def quoted (s : String) : String :=
  String.ofList ('"' :: (s.toList.flatMap showChar ++ ['"']))

end SqlBackend.Text
