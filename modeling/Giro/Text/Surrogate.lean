import Giro.Text.Hex

/-!
Surrogates. A high one and a low one in a row are one character; a surrogate without its partner is
none, and UTF-8 has no bytes for it. A text with such codes is kept as characters all the same: each
of them becomes a run of marks and a character that tells the code. The run is longer than the text
itself has marks, so equal codes give equal characters and different codes different ones, and a
part of the text with so many marks has a surrogate in it and cannot be written out.
-/

namespace Giro.Text

def isHighSurrogate (code : Nat) : Bool :=
  0xd800 ≤ code && code < 0xdc00

def isLowSurrogate (code : Nat) : Bool :=
  0xdc00 ≤ code && code < 0xe000

def isSurrogate (code : Nat) : Bool :=
  isHighSurrogate code || isLowSurrogate code

def pairCode (high low : Nat) : Nat :=
  0x10000 + (high - 0xd800) * 0x400 + (low - 0xdc00)

/-- The mark of a surrogate without its partner, a character for private use. -/
def mark : Char := '\ue000'

/-- The characters that a code is kept as. A surrogate is told by an ideograph, which like the
surrogate itself and the marks is neither blank nor a digit and has no case. -/
def ofCode (marks code : Nat) : List Char :=
  if isSurrogate code then List.replicate marks mark ++ [.ofNat (code - 0x8000)]
  else [.ofNat code]

/-- The codes that a text writes as a backslash, a `u` and four hexadecimal digits. -/
def escapedCodes : List Char → List Nat
  | '\\' :: 'u' :: rest =>
      match hexCode? rest with
      | some (code, _) => code :: escapedCodes rest
      | none => escapedCodes rest
  | _ :: rest => escapedCodes rest
  | [] => []

/-- One more than the marks that a text holds or writes by their code. -/
def marksOver (text : List Char) : Nat :=
  text.count mark + (escapedCodes text).count mark.toNat + 1

/-- Whether a text that was read with so many marks for each surrogate has none without its
partner. -/
def isWhole (marks : Nat) (text : String) : Bool :=
  text.toList.count mark < marks

end Giro.Text
