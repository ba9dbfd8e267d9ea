import Telemetry.Decimal.Reading
import Telemetry.Url.Basic

set_option autoImplicit false

namespace Telemetry.Url

open Decimal (digitsValue isDigit spanDigits)
open Delivery (Scheme)

def isPlain (escaped : String) (c : Char) : Bool :=
  32 ≤ c.toNat && c.toNat < 127 && !escaped.toList.contains c

def isPlainInPath : Char → Bool := isPlain " \"#<>?`\x7b\x7d"

def isPlainInCredentials : Char → Bool := isPlain " \"#<>?`\x7b\x7d/:;=@[\\]^|"

def isPlainInQuery : Char → Bool := isPlain " \"#<>\x27"

def isPlainInFragment : Char → Bool := isPlain " \"<>`"

def isSlash (c : Char) : Bool := c == '/' || c == '\\'

def endsAuthority (c : Char) : Bool := isSlash c || c == '?' || c == '#'

def readCredentials (cs : List Char) : List Char × List Char :=
  let encode := Text.Percent.encode isPlainInCredentials
  (encode (cs.takeWhile (· != ':')), encode ((cs.dropWhile (· != ':')).drop 1))

def splitCredentials (authority : List Char) : List Char × List Char :=
  if authority.contains '@' then
    let host := (authority.reverse.takeWhile (· != '@')).reverse
    (authority.take (authority.length - host.length - 1), host)
  else ([], authority)

/-- A host up to the first colon outside of brackets, and the rest from that colon on. -/
def splitPort (bracketed : Bool) : List Char → List Char × List Char
  | [] => ([], [])
  | c :: rest =>
    if c = ':' ∧ bracketed = false then ([], c :: rest)
    else
      let inside := if c = '[' then true else if c = ']' then false else bracketed
      let (host, port) := splitPort inside rest
      (c :: host, port)

def maxPort : Nat := 65535

def readPort? (scheme : Scheme) : List Char → Except AddressError (Option Nat)
  | [] => .ok none
  | _ :: digits =>
    if digits.all isDigit then
      let port := digitsValue digits
      if maxPort < port then .error .invalidPort
      else if digits.isEmpty || port == scheme.defaultPort then .ok none
      else .ok (some port)
    else .error .invalidPort

def readHost (cs : List Char) : Except AddressError Host :=
  if cs.isEmpty then .error .emptyHost else Host.ofText cs

def isSingleDot (segment : List Char) : Bool :=
  [".", "%2e"].contains (String.ofList (segment.map Char.toLower))

def isDoubleDot (segment : List Char) : Bool :=
  ["..", ".%2e", "%2e.", "%2e%2e"].contains (String.ofList (segment.map Char.toLower))

def isDriveLetter (segment : List Char) : Bool :=
  match segment with
  | [letter, mark] => letter.isAlpha && (mark == ':' || mark == '|')
  | _ => false

def removeLast (path : List (List Char)) : List (List Char) :=
  match path.getLast? with
  | some last => if isDriveLetter last then path else path.dropLast
  | none => []

/-- Walk along segments from a path. A dot segment at the end leaves an empty one. -/
def walk (path : List (List Char)) : List (List Char) → List (List Char)
  | [] => path
  | segment :: rest =>
    let isLast := rest.isEmpty
    let path :=
      if isDoubleDot segment then removeLast path ++ (if isLast then [[]] else [])
      else if isSingleDot segment then path ++ (if isLast then [[]] else [])
      else path ++ [segment]
    walk path rest

def readPath (cs : List Char) : List (List Char) :=
  let slashed := cs.map fun c => if c = '\\' then '/' else c
  walk [] ((Text.splitOn '/' (slashed.drop 1)).map (Text.Percent.encode isPlainInPath))

def splitMark (mark : Char) (cs : List Char) : List Char × Option (List Char) :=
  match cs.dropWhile (· != mark) with
  | [] => (cs, none)
  | _ :: rest => (cs.takeWhile (· != mark), some rest)

def isDropped (c : Char) : Bool := c == '\t' || c == '\n' || c == '\r'

def ofAuthority (scheme : Scheme) (text : List Char) : Except AddressError Url := do
  let cs := (text.filter (!isDropped ·)).dropWhile isSlash
  let (credentials, host) := splitCredentials (cs.takeWhile (!endsAuthority ·))
  let (rest, fragment) := splitMark '#' (cs.dropWhile (!endsAuthority ·))
  let (path, query) := splitMark '?' rest
  let (host, port) := splitPort false host
  let (username, password) := readCredentials credentials
  let host ← readHost host
  let port ← readPort? scheme port
  .ok {
    scheme, username, password, host, port
    path := readPath path
    query := query.map (Text.Percent.encode isPlainInQuery)
    fragment := fragment.map (Text.Percent.encode isPlainInFragment) }

end Telemetry.Url
