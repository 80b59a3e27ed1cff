import Giro.Text.Surrogate

/-!
Texts as bytes, in units of one, two or four bytes. A text that starts with two ASCII characters
other than the null character shows its encoding: the zero bytes among the first four tell how wide
the units are and which byte of a unit comes first.
-/

namespace Giro.Text

inductive Encoding where
  | utf8
  | utf16 (highFirst : Bool)
  | utf32 (highFirst : Bool)
  deriving DecidableEq, Repr

/-- The encoding that the first bytes show. Bytes without such a sign are UTF-8. -/
def Encoding.ofBytes : List UInt8 → Encoding
  | [a, b] => if a = 0 then .utf16 true else if b = 0 then .utf16 false else .utf8
  | a :: b :: c :: d :: _ =>
      if a = 0 then if b = 0 then .utf32 true else .utf16 true
      else if b = 0 then if c = 0 ∧ d = 0 then .utf32 false else .utf16 false
      else .utf8
  | _ => .utf8

def codeUnit (highFirst : Bool) (bytes : List UInt8) : Nat :=
  (if highFirst then bytes else bytes.reverse).foldl (fun n byte => 0x100 * n + byte.toNat) 0

/-- The units of two bytes each, unless the last one is cut off. -/
def units16? (highFirst : Bool) : List UInt8 → Option (List Nat)
  | a :: b :: rest => (units16? highFirst rest).map (codeUnit highFirst [a, b] :: ·)
  | [] => some []
  | _ => none

/-- The units of four bytes each, unless the last one is cut off. -/
def units32? (highFirst : Bool) : List UInt8 → Option (List Nat)
  | a :: b :: c :: d :: rest =>
      (units32? highFirst rest).map (codeUnit highFirst [a, b, c, d] :: ·)
  | [] => some []
  | _ => none

def codes16 : List Nat → List Nat
  | high :: low :: rest =>
      if isHighSurrogate high && isLowSurrogate low then pairCode high low :: codes16 rest
      else high :: codes16 (low :: rest)
  | units => units

/-- The codes of units of four bytes, unless one is beyond the last code point. -/
def codes32? (units : List Nat) : Option (List Nat) :=
  if units.all (· < 0x110000) then some units else none

/-- The codes without a byte order mark in front. -/
def withoutMark : List Nat → List Nat
  | 0xfeff :: rest => rest
  | codes => codes

/-- The codes of a text whose bytes were taken for UTF-8, read in the encoding that the bytes show.
Surrogates without a partner may be among them. -/
def codes? (text : String) : Option (List Nat) :=
  let bytes := text.toUTF8.data.toList
  match Encoding.ofBytes bytes with
  | .utf8 => some (withoutMark (text.toList.map Char.toNat))
  | .utf16 highFirst => (units16? highFirst bytes).map codes16
  | .utf32 highFirst => (units32? highFirst bytes).bind codes32?

end Giro.Text
