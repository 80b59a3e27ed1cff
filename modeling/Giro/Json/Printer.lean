import Giro.Binary64.Decimal
import Giro.Json.Basic
import Giro.Text.Hex

/-!
Writing JSON text with one member or item a line, two spaces deeper at each level. Characters
stand for themselves except quotes, backslashes and the controls below the space; a double is
written with the fewest digits that read back, and as `null` where it is not finite.
-/

namespace Giro.Json

def escape (c : Char) : List Char :=
  if c = '"' then ['\\', '"']
  else if c = '\\' then ['\\', '\\']
  else if c = '\x08' then ['\\', 'b']
  else if c = '\x0c' then ['\\', 'f']
  else if c = '\n' then ['\\', 'n']
  else if c = '\r' then ['\\', 'r']
  else if c = '\t' then ['\\', 't']
  else if c.toNat < 0x20 then '\\' :: 'u' :: Text.hexCode 4 c.toNat
  else [c]

def quote (s : String) : List Char :=
  '"' :: (s.toList.flatMap escape ++ ['"'])

def renderNat (n : Nat) : List Char :=
  Nat.toDigits 10 n

def renderInt : Int → List Char
  | .ofNat n => renderNat n
  | .negSucc n => '-' :: renderNat (n + 1)

/-- A decimal is written out from 10 ^ -5 up to 10 ^ 16, with at least one digit on each side of
the point, and beyond that with an exponent, which always has a sign. -/
def renderScientific (decimal : Binary64.Scientific) : List Char :=
  let digits := renderNat decimal.digits
  let point : Int := digits.length + decimal.exponent
  if 0 ≤ decimal.exponent ∧ point ≤ 16 then
    digits ++ List.replicate decimal.exponent.toNat '0' ++ ['.', '0']
  else if 0 < point ∧ point ≤ 16 then
    digits.take point.toNat ++ '.' :: digits.drop point.toNat
  else if -5 < point ∧ point ≤ 0 then
    '0' :: '.' :: (List.replicate (-point).toNat '0' ++ digits)
  else
    digits.take 1 ++ (if digits.length = 1 then [] else '.' :: digits.drop 1) ++
      'e' :: ((if 0 < point then ['+'] else []) ++ renderInt (point - 1))

def renderFloat : Binary64 → List Char
  | .finite negative m =>
      (if negative then ['-'] else []) ++ renderScientific (Binary64.shortest m)
  | _ => "null".toList

def newline (depth : Nat) : List Char :=
  '\n' :: List.replicate (2 * depth) ' '

mutual

def render (depth : Nat) : Json → List Char
  | .null => "null".toList
  | .bool value => (if value then "true" else "false").toList
  | .int value => renderInt value
  | .float value => renderFloat value
  | .str value => quote value
  | .arr [] => ['[', ']']
  | .arr (first :: more) =>
      '[' :: (newline (depth + 1) ++ render (depth + 1) first ++ renderItems (depth + 1) more ++
        newline depth ++ [']'])
  | .obj [] => ['\x7b', '\x7d']
  | .obj ((name, first) :: more) =>
      '\x7b' :: (newline (depth + 1) ++ quote name ++ [':', ' '] ++ render (depth + 1) first ++
        renderMembers (depth + 1) more ++ newline depth ++ ['\x7d'])

/-- Further items, each after a comma on a line of its own. -/
def renderItems (depth : Nat) : List Json → List Char
  | [] => []
  | item :: more => ',' :: (newline depth ++ render depth item ++ renderItems depth more)

/-- Further members, each after a comma on a line of its own. -/
def renderMembers (depth : Nat) : List (String × Json) → List Char
  | [] => []
  | (name, value) :: more =>
      ',' :: (newline depth ++ quote name ++ [':', ' '] ++ render depth value ++
        renderMembers depth more)

end

def pretty (value : Json) : String :=
  .ofList (render 0 value)

end Giro.Json
