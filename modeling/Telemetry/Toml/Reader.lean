import Telemetry.Toml.Document
import Telemetry.Toml.Scalar
import Telemetry.Toml.Text

set_option autoImplicit false

namespace Telemetry.Toml

def maxNesting : Nat := 80

mutual

/-- A value and what follows it. The first argument bounds the nesting and the number of items together, the
second one the nesting. -/
def readValue? : Nat → Nat → List Char → Option (Value × List Char)
  | 0, _, _ => none
  | fuel + 1, depth, cs =>
    match cs with
    | '"' :: rest => (readString? '"' rest).map fun (text, rest) => (.string text, rest)
    | '\x27' :: rest => (readString? '\x27' rest).map fun (text, rest) => (.string text, rest)
    | '[' :: rest =>
      match depth with
      | 0 => none
      | depth + 1 => (readItems? fuel depth rest).map fun (items, rest) => (.array items, rest)
    | '\x7b' :: rest =>
      match depth with
      | 0 => none
      | depth + 1 =>
        (readInline? fuel depth [] rest).map fun (members, rest) => (.table (finishMembers members), rest)
    | cs =>
      let (word, rest) := spanScalar cs
      (scalar? word).map fun value => (value, rest)

/-- The items of an array up to its closing bracket; a comma may follow the last. -/
def readItems? : Nat → Nat → List Char → Option (List Value × List Char)
  | 0, _, _ => none
  | fuel + 1, depth, cs =>
    match skipLines? cs.length cs with
    | none => none
    | some (']' :: rest) => some ([], rest)
    | some cs => do
      let (item, rest) ← readValue? fuel depth cs
      match skipLines? rest.length rest with
      | some (']' :: rest) => some ([item], rest)
      | some (',' :: rest) =>
        let (items, rest) ← readItems? fuel depth rest
        some (item :: items, rest)
      | _ => none

/-- The members of an inline table up to its closing brace; a comma may follow the last. -/
def readInline? : Nat → Nat → Members → List Char → Option (Members × List Char)
  | 0, _, _, _ => none
  | fuel + 1, depth, members, cs =>
    match skipLines? cs.length cs with
    | none => none
    | some ('\x7d' :: rest) => some (members, rest)
    | some cs => do
      let (keys, rest) ← readKey? (cs.length + 1) cs
      match rest with
      | '=' :: rest =>
        let (value, rest) ← readValue? fuel depth (skipSpaces rest)
        let members ← assign? value keys members
        match skipLines? rest.length rest with
        | some ('\x7d' :: rest) => some (members, rest)
        | some (',' :: rest) => readInline? fuel depth members rest
        | _ => none
      | _ => none

end

def readHeader? (closing : List Char) (cs : List Char) : Option (List String × List Char) := do
  let (keys, rest) ← readKey? (cs.length + 1) cs
  if closing.isPrefixOf rest then
    let rest ← finishLine? (rest.drop closing.length)
    some (keys, rest)
  else none

/-- Read lines into a document, of which `header` is the table in force. The first argument bounds the
number of lines. -/
def readLines? : Nat → List String → Members → List Char → Option Members
  | 0, _, _, _ => none
  | fuel + 1, header, members, cs =>
    match skipLines? (cs.length + 1) cs with
    | none => none
    | some [] => some members
    | some ('[' :: '[' :: rest) => do
      let (keys, rest) ← readHeader? [']', ']'] rest
      let members ← appendTable? keys members
      readLines? fuel keys members rest
    | some ('[' :: rest) => do
      let (keys, rest) ← readHeader? [']'] rest
      let members ← defineTable? keys members
      readLines? fuel keys members rest
    | some cs => do
      let (keys, rest) ← readKey? (cs.length + 1) cs
      match rest with
      | '=' :: rest =>
        let rest := skipSpaces rest
        let (value, rest) ← readValue? (rest.length + 1) maxNesting rest
        let members ← assignIn? header keys value members
        let rest ← finishLine? rest
        readLines? fuel header members rest
      | _ => none

def byteOrderMark : Char := '\ufeff'

def ofText? (text : String) : Option (List (String × Value)) :=
  let cs := match text.toList with
    | c :: rest => if c = byteOrderMark then rest else c :: rest
    | [] => []
  (readLines? (cs.length + 1) [] [] cs).map finishMembers

end Telemetry.Toml
