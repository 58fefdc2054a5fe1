import ProviderRouting.Text.Printable
import ProviderRouting.Text.GraphemeExtend

/-!
# Quoted text for messages

`quoted s` writes `s` between double quotes the way error messages show a text: a quote and a
backslash get a backslash, tab, carriage return, line feed and NUL their short escapes, and a
character that would not show as itself is written `\u{hex}` with lowercase digits and no
padding. Those are the grapheme extenders, which would join the character before them, and the
characters that are not printable (`isPrintable`).

`quotedCharacter c` writes one character between single quotes the same way, except that the
single quote is the one that gets a backslash and the double quote stands for itself.
-/

namespace ProviderRouting.Text

def hidden (c : Char) : Bool := isGraphemeExtend c || !isPrintable c

def hexDigits (n : Nat) : List Char :=
  (Nat.toDigits 16 n)

def quotedChar (c : Char) : List Char :=
  if c = '"' then ['\\', '"']
  else if c = '\\' then ['\\', '\\']
  else if c = '\t' then ['\\', 't']
  else if c = '\r' then ['\\', 'r']
  else if c = '\n' then ['\\', 'n']
  else if c.toNat = 0 then ['\\', '0']
  else if hidden c then ['\\', 'u', Char.ofNat 123] ++ hexDigits c.toNat ++ [Char.ofNat 125]
  else [c]

def quoted (s : String) : String :=
  String.ofList ('"' :: (s.toList.flatMap quotedChar ++ ['"']))

def quotedCharacter (c : Char) : String :=
  let body := if c = '\'' then ['\\', '\''] else if c = '"' then ['"'] else quotedChar c
  String.ofList ('\'' :: (body ++ ['\'']))

example : quoted "\t\n" = "\"\\t\\n\"" := by decide

example : quotedCharacter '\'' = "'\\''" := by decide

end ProviderRouting.Text
