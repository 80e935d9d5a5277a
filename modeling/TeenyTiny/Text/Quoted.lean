import TeenyTiny.Text.Extender
import TeenyTiny.Text.Ignorable
import TeenyTiny.Text.Printable

/-!
# Quoted characters and texts

Messages quote a character between apostrophes and a text between double quotes.
What would not be seen, or would be drawn onto its neighbour, is written as an
escape.
-/

namespace TeenyTiny

/-- The escape `\u{…}` of a character: its code point in lower-case
hexadecimal. -/
def codeEscape (c : Char) : String :=
  "\\u\x7b" ++ String.ofList (Nat.toDigits 16 c.toNat) ++ "\x7d"

/-- A character as it stands inside quotes of the kind `quote`. -/
def quotedChar (quote c : Char) : String :=
  if c = '\x00' then "\\0"
  else if c = '\t' then "\\t"
  else if c = '\r' then "\\r"
  else if c = '\n' then "\\n"
  else if c = '\\' then "\\\\"
  else if c = quote then String.ofList ['\\', quote]
  else if isExtender c || isIgnorable c || !isPrintable c then codeEscape c
  else String.singleton c

def quoteChar (c : Char) : String :=
  "'" ++ quotedChar '\'' c ++ "'"

def quoteText (text : String) : String :=
  "\"" ++ String.join (text.toList.map (quotedChar '"')) ++ "\""

end TeenyTiny
