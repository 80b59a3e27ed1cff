import Giro.Text.Blank

/-!
Whole numbers as texts. Reading is liberal: there may be blanks around a number, a sign before it
and single underscores between its digits, and the digits may be those of any script. Writing has
one form. A number of too many digits is neither read nor written.
-/

namespace Giro.Text

/-- The zeros of the scripts of Unicode 14 that have decimal digits; the other nine follow each. -/
def decimalZeros : List Nat :=
  [0x30, 0x660, 0x6f0, 0x7c0, 0x966, 0x9e6, 0xa66, 0xae6, 0xb66, 0xbe6, 0xc66, 0xce6, 0xd66, 0xde6,
   0xe50, 0xed0, 0xf20, 0x1040, 0x1090, 0x17e0, 0x1810, 0x1946, 0x19d0, 0x1a80, 0x1a90, 0x1b50,
   0x1bb0, 0x1c40, 0x1c50, 0xa620, 0xa8d0, 0xa900, 0xa9d0, 0xa9f0, 0xaa50, 0xabf0, 0xff10, 0x104a0,
   0x10d30, 0x11066, 0x110f0, 0x11136, 0x111d0, 0x112f0, 0x11450, 0x114d0, 0x11650, 0x116c0,
   0x11730, 0x118e0, 0x11950, 0x11c50, 0x11d50, 0x11da0, 0x16a60, 0x16ac0, 0x16b50, 0x1d7ce,
   0x1d7d8, 0x1d7e2, 0x1d7ec, 0x1d7f6, 0x1e140, 0x1e2f0, 0x1e950, 0x1fbf0]

/-- What a character counts as a decimal digit. -/
def decimalValue? (c : Char) : Option Nat :=
  (decimalZeros.find? fun first => first ≤ c.toNat && c.toNat < first + 10).map (c.toNat - ·)

/-- The values of digits, of which two may have an underscore between them. -/
def digitValues? : List Char → Option (List Nat)
  | [] => none
  | c :: rest =>
      match decimalValue? c with
      | none => none
      | some value =>
          match rest with
          | [] => some [value]
          | '_' :: more => (digitValues? more).map (value :: ·)
          | next :: more => (digitValues? (next :: more)).map (value :: ·)

/-- The number that at most so many digits stand for. -/
def magnitude? (limit : Nat) (text : List Char) : Option Nat :=
  match digitValues? text with
  | none => none
  | some values =>
      if values.length ≤ limit then some (values.foldl (fun n value => 10 * n + value) 0) else none

/-- A blank that may stand beside a number; the information separators may not. -/
def isMargin (c : Char) : Bool :=
  isBlank c && !(0x1c ≤ c.toNat && c.toNat ≤ 0x1f)

def withoutMargins (text : List Char) : List Char :=
  ((text.dropWhile isMargin).reverse.dropWhile isMargin).reverse

/-- The number of a text, if it has at most so many digits. -/
def readWhole? (limit : Nat) (text : List Char) : Option Int :=
  match withoutMargins text with
  | '-' :: rest => (magnitude? limit rest).map Int.negOfNat
  | '+' :: rest => (magnitude? limit rest).map Int.ofNat
  | rest => (magnitude? limit rest).map Int.ofNat

/-- A number of more digits than may be written. -/
structure TooLong where
  digits : Nat
  deriving DecidableEq

/-- The decimal text of a number, if it has at most so many digits. -/
def writeWhole (limit n : Nat) : Except TooLong String :=
  let digits := Nat.toDigits 10 n
  if digits.length ≤ limit then .ok (.ofList digits) else .error ⟨digits.length⟩

end Giro.Text
