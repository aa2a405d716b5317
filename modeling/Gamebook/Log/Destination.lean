import Gamebook.Failure
import Gamebook.Path
import Gamebook.Text.Quoted

/-! # Where a log goes

A log goes to one of the standard streams or to a file. It is named by a path or by a location of the
scheme `file`: an absolute path is taken as it is, anything else is read as a location, in which `%`
and two digits stand for a byte.
-/

namespace Gamebook.Log

/-- Where lines of a log go. -/
inductive Destination where
  | out
  | err
  /-- A file, by the path that leads to it. -/
  | file (path : Text)
  deriving DecidableEq, Repr, Inhabited

/-- The parts of a location. -/
structure Location where
  scheme : Text
  /-- What stands before the host and an `@`. -/
  user : Option Text := none
  host : Text := []
  path : Text := []
  query : Text := []
  fragment : Text := []
  deriving DecidableEq, Repr, Inhabited

namespace Location

/-- The scheme of the locations of files. -/
def fileScheme : Text := "file"

/-- Whether a byte is a letter `a` to `z` in either case. -/
def isLetter (b : UInt8) : Bool :=
  (0x41 ≤ b && b ≤ 0x5A) || (0x61 ≤ b && b ≤ 0x7A)

/-- Whether a byte may come after the first of a scheme. -/
def isSchemeByte (b : UInt8) : Bool :=
  isLetter b || (0x30 ≤ b && b ≤ 0x39) || b = 0x2B || b = 0x2D || b = 0x2E

/-- The scheme at the front of a location, in lower case, and what stands after it. A colon at the
    very front has no scheme before it. -/
def cutScheme (t : Text) : Except Text (Text × Text) :=
  match t.takeWhile isSchemeByte, t.dropWhile isSchemeByte with
  | [], 0x3A :: _ => .error "missing protocol scheme"
  | first :: scheme, 0x3A :: rest =>
    if isLetter first then .ok (Text.lowerAscii (first :: scheme), rest) else .ok ([], t)
  | _, _ => .ok ([], t)

/-- The value of a hexadecimal digit. -/
def hexValue? (b : UInt8) : Option Nat :=
  if 0x30 ≤ b ∧ b ≤ 0x39 then some (b.toNat - 0x30)
  else if 0x41 ≤ b ∧ b ≤ 0x46 then some (b.toNat - 0x37)
  else if 0x61 ≤ b ∧ b ≤ 0x66 then some (b.toNat - 0x57)
  else none

/-- A text with the bytes for which `%` and two digits stand. -/
def unescape : Text → Except Text Text
  | [] => .ok []
  | 0x25 :: rest =>
    match rest with
    | a :: b :: rest' =>
      match hexValue? a, hexValue? b with
      | some x, some y => (unescape rest').map ((16 * x + y).toUInt8 :: ·)
      | _, _ => .error ("invalid URL escape " ++ Text.quoted [0x25, a, b])
    | short => .error ("invalid URL escape " ++ Text.quoted (0x25 :: short))
  | b :: rest => (unescape rest).map (b :: ·)

/-- What stands before and after the first occurrence of a byte, or the whole text. -/
def cutAt (b : UInt8) (t : Text) : Text × Text :=
  (t.takeWhile (· ≠ b), (t.dropWhile (· ≠ b)).drop 1)

/-- What stands before the last `@` of a host, and what stands after it. -/
def cutUser (authority : Text) : Option Text × Text :=
  match (Text.split 0x40 authority).reverse with
  | [] => (none, [])
  | [host] => (none, host)
  | host :: before => (some (Text.join "@" before.reverse), host)

/-- A location read from a text, or why it is none. -/
def parse (t : Text) : Except Text Location := do
  if t.any fun b => b < 0x20 || b = 0x7F then
    .error "net/url: invalid control character in URL"
  let (front, fragment) := cutAt 0x23 t
  let (scheme, rest) ← cutScheme front
  let (rest, query) := cutAt 0x3F rest
  let fragment ← unescape fragment
  match rest with
  | 0x2F :: 0x2F :: rest =>
    let authority := rest.takeWhile (· ≠ Path.slash)
    let (user, host) := cutUser authority
    return { scheme, user, host, query, fragment
             path := ← unescape (rest.dropWhile (· ≠ Path.slash)) }
  | 0x2F :: _ => return { scheme, query, fragment, path := ← unescape rest }
  | _ =>
    if ¬ scheme.isEmpty then return { scheme, query, fragment }
    else if (rest.takeWhile (· ≠ Path.slash)).contains 0x3A then
      .error "first path segment in URL cannot contain colon"
    else return { scheme, query, fragment, path := ← unescape rest }

/-- The port of a host, and the host without it. -/
def cutPort (host : Text) : Text × Text :=
  cutAt 0x3A host

/-- A location as it is shown. -/
def text (l : Location) : Text :=
  let user : Text := match l.user with
    | some user => user ++ "@"
    | none => []
  let query : Text := if l.query.isEmpty then [] else "?" ++ l.query
  let fragment : Text := if l.fragment.isEmpty then [] else "#" ++ l.fragment
  l.scheme ++ "://" ++ user ++ l.host ++ l.path ++ query ++ fragment

/-- Why a location of a file cannot be used. -/
def refusal? (l : Location) : Option Text :=
  let (host, port) := cutPort l.host
  if l.user.isSome then some "user and password not allowed with file URLs"
  else if ¬ l.fragment.isEmpty then some "fragments not allowed with file URLs"
  else if ¬ l.query.isEmpty then some "query parameters not allowed with file URLs"
  else if ¬ port.isEmpty then some "ports not allowed with file URLs"
  else if ¬ host.isEmpty ∧ host ≠ Text.ofString "localhost" then
    some "file URLs must leave host empty or use localhost"
  else none

end Location

namespace Destination

/-- The destination with a path. -/
def ofPath (path : Text) : Destination :=
  if path = Text.ofString "stdout" then .out
  else if path = Text.ofString "stderr" then .err
  else .file path

/-- The destination that a text names. -/
def parse (t : Text) : Except Failure Destination :=
  if Path.isAbsolute t then .ok (ofPath t)
  else
    match Location.parse t with
    | .error why =>
      .error [.said ("can't parse " ++ t.quoted ++ " as a URL"), .said ("parse " ++ t.quoted),
        .said why]
    | .ok l =>
      let l := if l.scheme.isEmpty then { l with scheme := Location.fileScheme } else l
      if l.scheme ≠ Location.fileScheme then
        .error [.said ("no sink found for scheme " ++ l.scheme.quoted)]
      else
        match l.refusal? with
        | some why => .error [.said why, .said ("got " ++ l.text)]
        | none => .ok (ofPath l.path)

end Destination

end Gamebook.Log
