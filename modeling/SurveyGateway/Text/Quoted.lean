import SurveyGateway.Text.VisibleTable
import SurveyGateway.Text.Lowercase
import SurveyGateway.Text.Hex

/-!
# Quoted texts

A text between double quotes as messages show it: quotes and backslashes are escaped, line ends and tabs go
by letter, and what would not be visible on its own goes by number.
-/

namespace SurveyGateway.Text

/-- A character by its number, between braces. -/
def numberedEscape (c : Char) : List Char :=
  '\\' :: 'u' :: '\x7b' :: (hexNatText c.toNat ++ ['\x7d'])

/-- A character inside quotes. -/
def quotedChar (c : Char) : List Char :=
  if c = '\x00' then ['\\', '0']
  else if c = '\t' then ['\\', 't']
  else if c = '\r' then ['\\', 'r']
  else if c = '\n' then ['\\', 'n']
  else if c = '"' then ['\\', '"']
  else if c = '\\' then ['\\', '\\']
  else if ' ' ≤ c ∧ c ≤ '~' then [c]
  else if inRanges extendingRanges c.toNat || inRanges hiddenRanges c.toNat then numberedEscape c
  else [c]

/-- A text between quotes. -/
def quoted (s : String) : List Char := '"' :: (s.toList.flatMap quotedChar ++ ['"'])

end SurveyGateway.Text
