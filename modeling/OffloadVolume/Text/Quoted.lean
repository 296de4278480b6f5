import OffloadVolume.Text.Printable
import OffloadVolume.Text.Numeral

/-!
# Quoted text

A text between double quotes in which the quote, the backslash and whatever does not print are
escaped. Main statement: `quoteChars_append`, the quoted form is built character by character.
-/

namespace OffloadVolume.Text

def escapeChar (c : Char) : List Char :=
  if c = '"' then ['\\', '"']
  else if c = '\\' then ['\\', '\\']
  else if c = '\n' then ['\\', 'n']
  else if c = '\r' then ['\\', 'r']
  else if c = '\t' then ['\\', 't']
  else if c.toNat = 0 then ['\\', '0']
  else if isPrintable c then [c]
  else ['\\', 'u', '{'] ++ Numeral.digits 16 c.toNat ++ ['}']

def quoteChars (cs : List Char) : List Char := cs.flatMap escapeChar

def quote (s : String) : String := "\"" ++ String.ofList (quoteChars s.toList) ++ "\""

@[simp] theorem quoteChars_nil : quoteChars [] = [] := rfl

@[simp] theorem quoteChars_append (cs ds : List Char) :
    quoteChars (cs ++ ds) = quoteChars cs ++ quoteChars ds := by
  simp [quoteChars]

end OffloadVolume.Text
