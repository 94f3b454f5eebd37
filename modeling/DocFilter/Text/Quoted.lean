/-!
# Quoted text

Text between double quotes: a quote, a backslash and every control character below U+0020 is
escaped, everything else stands for itself.
-/

namespace DocFilter
namespace Text

/-- The lower case hexadecimal digit of a number below sixteen. -/
def hexDigit (n : Nat) : Char :=
  if n < 10 then Char.ofNat (48 + n) else Char.ofNat (87 + n)

/-- One character as it stands inside quotes. -/
def escapeChar (c : Char) : List Char :=
  if c = '"' then ['\\', '"']
  else if c = '\\' then ['\\', '\\']
  else if c = '\x08' then ['\\', 'b']
  else if c = '\t' then ['\\', 't']
  else if c = '\n' then ['\\', 'n']
  else if c = '\x0c' then ['\\', 'f']
  else if c = '\r' then ['\\', 'r']
  else if c.toNat < 32 then
    ['\\', 'u', '0', '0', hexDigit (c.toNat / 16), hexDigit (c.toNat % 16)]
  else [c]

/-- The text inside quotes. -/
def escapeChars (cs : List Char) : List Char :=
  cs.flatMap escapeChar

/-- The text with its quotes. -/
def quoteChars (s : String) : List Char :=
  '"' :: escapeChars s.toList ++ ['"']

end Text
end DocFilter
