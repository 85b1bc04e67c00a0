import ScalingMetrics.Text.Unprintable

/-!
# Quoted text in messages

A text is quoted so that all of it can be seen: quotation marks, backslashes and the usual control
characters are escaped by a letter, other unprintable characters by their number.
-/

namespace ScalingMetrics.Text

/-- A character inside quotation marks. -/
def quoteChar (c : Char) : List Char :=
  if c = '\x22' ∨ c = '\\' then ['\\', c]
  else if c = '\t' then ['\\', 't']
  else if c = '\r' then ['\\', 'r']
  else if c = '\n' then ['\\', 'n']
  else if c.toNat = 0 then ['\\', '0']
  else if isUnprintable c then
    '\\' :: 'u' :: '\x7b' :: Nat.toDigits 16 c.toNat ++ ['\x7d']
  else [c]

/-- A text between quotation marks. -/
def quoted (s : String) : String := "\x22" ++ .ofList (s.toList.flatMap quoteChar) ++ "\x22"

end ScalingMetrics.Text
