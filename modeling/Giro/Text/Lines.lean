import Giro.Text.Ranges

/-!
Line breaks: the line feed and the controls after it up to the carriage return, three of the
information separators, the next-line character and the two Unicode separators. A carriage return
and the line feed after it are one break.
-/

namespace Giro.Text

def lineBreakRanges : Ranges :=
  [(0xa, 0xd), (0x1c, 0x1e), (0x85, 0x85), (0x2028, 0x2029)]

def isLineBreak (c : Char) : Bool :=
  lineBreakRanges.covers c.toNat

def lineBreaks : List Char → Nat
  | '\r' :: '\n' :: rest => lineBreaks rest + 1
  | c :: rest => if isLineBreak c then lineBreaks rest + 1 else lineBreaks rest
  | [] => 0

end Giro.Text
