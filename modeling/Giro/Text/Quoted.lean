import Giro.Text.Hex
import Giro.Text.Printable

/-!
A text in quotes for a message: apostrophes around it, or quotation marks where it holds an
apostrophe and no quotation mark. Characters that cannot be shown are written by their code.
-/

namespace Giro.Text

def quotedChar (mark c : Char) : List Char :=
  if c = '\\' ∨ c = mark then ['\\', c]
  else if c = '\t' then ['\\', 't']
  else if c = '\n' then ['\\', 'n']
  else if c = '\r' then ['\\', 'r']
  else if isPrintable c then [c]
  else if c.toNat < 0x100 then '\\' :: 'x' :: hexCode 2 c.toNat
  else if c.toNat < 0x10000 then '\\' :: 'u' :: hexCode 4 c.toNat
  else '\\' :: 'U' :: hexCode 8 c.toNat

def quoted (text : String) : String :=
  let chars := text.toList
  let mark := if chars.contains '\'' && !chars.contains '"' then '"' else '\''
  .ofList (mark :: (chars.flatMap (quotedChar mark) ++ [mark]))

end Giro.Text
