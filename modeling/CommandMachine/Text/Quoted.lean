import CommandMachine.Text.Columns
import CommandMachine.Text.Hidden
namespace CommandMachine
namespace Text

/-!
Text between double quotes.  A quote and a backslash are preceded by a
backslash, four controls have a letter of their own, and every other hidden
character is written as its hexadecimal code point between braces, so that
quoted text is one line of visible characters.
-/

/-- One character as it is written between double quotes. -/
def quoteChar (character : Char) : String :=
  if character == '"' then "\\\""
  else if character == '\\' then "\\\\"
  else if character == '\n' then "\\n"
  else if character == '\r' then "\\r"
  else if character == '\t' then "\\t"
  else if character == '\x00' then "\\0"
  else if isHidden character then "\\u\x7b" ++ hex character.toNat ++ "\x7d"
  else String.singleton character

def quoted (text : String) : String :=
  "\"" ++ String.join (text.toList.map quoteChar) ++ "\""

/-- A list of texts, each between double quotes, in square brackets. -/
def quotedList (texts : List String) : String :=
  "[" ++ ", ".intercalate (texts.map quoted) ++ "]"

end Text
end CommandMachine
