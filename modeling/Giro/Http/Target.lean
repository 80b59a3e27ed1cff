import Giro.Text.Cut
import Giro.Text.Hex

/-!
The path that the target of a message names. A target is a reference: it may have a scheme and an
authority before its path, and a query and a fragment after it, which do not count. A reference
with a scheme and a host stands alone; any other continues the root of the service. Segments of
dots are resolved, and last each percent sign with two hexadecimal digits stands for a byte, so that
an encoded dot is no dot segment and an encoded slash or question mark belongs to the path.
-/

namespace Giro.Http

/-- A path as bytes, which need not be a text. -/
abbrev Path := List UInt8

/-- Who answers for a reference: a user, a host and a port, each possibly empty. -/
structure Authority where
  user : List Char
  host : List Char
  port : List Char
  deriving DecidableEq

namespace Authority

/-- The user ends at the last `@` and the host at the colon after it. -/
def ofText (text : List Char) : Authority :=
  let place := (text.reverse.takeWhile (· ≠ '@')).reverse
  { user := text.take (text.length - place.length - 1)
    host := place.takeWhile (· ≠ ':')
    port := (place.dropWhile (· ≠ ':')).drop 1 }

def isEmpty (authority : Authority) : Bool :=
  authority.user.isEmpty && authority.host.isEmpty && authority.port.isEmpty

end Authority

structure Reference where
  /-- Empty where the reference has none. -/
  scheme : List Char
  authority : Authority
  path : List Char
  deriving DecidableEq

namespace Reference

def isSchemeChar (c : Char) : Bool :=
  c.isAlphanum || c = '+' || c = '-' || c = '.'

/-- The scheme before a colon and what follows the colon. A scheme starts with a letter, if it is
not empty. -/
def splitScheme (text : List Char) : List Char × List Char :=
  match text.takeWhile isSchemeChar, text.dropWhile isSchemeChar with
  | [], ':' :: rest => ([], rest)
  | first :: more, ':' :: rest => if first.isAlpha then (first :: more, rest) else ([], text)
  | _, _ => ([], text)

/-- The authority after two slashes, up to the next slash, and what follows it. -/
def splitAuthority : List Char → Authority × List Char
  | '/' :: '/' :: rest => (.ofText (rest.takeWhile (· ≠ '/')), rest.dropWhile (· ≠ '/'))
  | text => (⟨[], [], []⟩, text)

/-- The reference that a text is, without its query and its fragment. -/
def ofText (text : List Char) : Reference :=
  let (scheme, rest) := splitScheme (text.takeWhile fun c => c ≠ '?' && c ≠ '#')
  let (authority, path) := splitAuthority rest
  ⟨scheme, authority, path⟩

def isAbsolute (reference : Reference) : Bool :=
  !reference.scheme.isEmpty && !reference.authority.host.isEmpty

def isPath (reference : Reference) : Bool :=
  reference.scheme.isEmpty && reference.authority.isEmpty

end Reference

namespace Target

/-- The segments after one more: a dot adds none and two dots take the last one away, except the
empty one in front of the first slash where it stands alone. -/
def addSegment (segments : List (List Char)) (segment : List Char) : List (List Char) :=
  if segment = ['.'] then segments
  else if segment = ['.', '.'] then if segments = [[]] then segments else segments.dropLast
  else segments ++ [segment]

def resolveDots (path : List Char) : List Char :=
  List.intercalate ['/'] ((Text.splitAt '/' path).foldl addSegment [])

/-- The path after the root of the service; slashes in front of it do not count. -/
def fromRoot (path : List Char) : List Char :=
  '/' :: path.dropWhile (· = '/')

/-- The path of a reference as it is written. The dots of one that is more than a path are resolved
before it is put after the root, so that slashes which they leave in front do not count either. -/
def writtenPath (reference : Reference) : List Char :=
  if reference.isPath then resolveDots (fromRoot reference.path)
  else if reference.isAbsolute then resolveDots reference.path
  else resolveDots (fromRoot (resolveDots reference.path))

/-- The bytes of a text in which a percent sign with two hexadecimal digits stands for a byte. -/
def percentDecode : List Char → Path
  | '%' :: high :: low :: rest =>
      match Text.hexDigit? high, Text.hexDigit? low with
      | some high, some low => UInt8.ofNat (16 * high + low) :: percentDecode rest
      | _, _ => '%'.toUInt8 :: percentDecode (high :: low :: rest)
  | c :: rest => String.utf8EncodeChar c ++ percentDecode rest
  | [] => []

/-- The path of a target; the empty one is the root. -/
def path (target : String) : Path :=
  match percentDecode (writtenPath (.ofText target.toList)) with
  | [] => ['/'.toUInt8]
  | path => path

end Target
end Giro.Http
