import Telemetry.Decimal.Writing
import Telemetry.Json.Basic
import Telemetry.Text.Hex

set_option autoImplicit false

namespace Telemetry.Json

open Decimal (intDigits)

def escapeChar (c : Char) : List Char :=
  if c = '"' then ['\\', '"']
  else if c = '\\' then ['\\', '\\']
  else if c = '\x08' then ['\\', 'b']
  else if c = '\t' then ['\\', 't']
  else if c = '\n' then ['\\', 'n']
  else if c = '\x0c' then ['\\', 'f']
  else if c = '\r' then ['\\', 'r']
  else if c.toNat < 32 then
    ['\\', 'u', '0', '0', Text.Hex.lower (c.toNat / 16), Text.Hex.lower (c.toNat % 16)]
  else [c]

def quoted (cs : List Char) : List Char := '"' :: (cs.flatMap escapeChar ++ ['"'])

mutual

def chars : Json → List Char
  | .null => "null".toList
  | .bool true => "true".toList
  | .bool false => "false".toList
  | .int value => intDigits value
  | .float value => value.shortestText
  | .string value => quoted value.toList
  | .array items => '[' :: (itemsChars items ++ [']'])
  | .object members => '{' :: (membersChars members ++ ['}'])

def itemsChars : List Json → List Char
  | [] => []
  | [item] => item.chars
  | item :: rest => item.chars ++ ',' :: itemsChars rest

def membersChars : List (String × Json) → List Char
  | [] => []
  | [(key, value)] => quoted key.toList ++ ':' :: value.chars
  | (key, value) :: rest => quoted key.toList ++ ':' :: (value.chars ++ ',' :: membersChars rest)

end

def text (value : Json) : String := String.ofList value.chars

def breakLine (level : Nat) : List Char := '\n' :: List.replicate (2 * level) ' '

mutual

/-- Text with one item or member a line; empty arrays and objects stay on theirs. -/
def indentedChars (level : Nat) : Json → List Char
  | .array [] => ['[', ']']
  | .array (item :: rest) =>
    '[' :: (indentedItems (level + 1) (item :: rest) ++ breakLine level ++ [']'])
  | .object [] => ['{', '}']
  | .object (member :: rest) =>
    '{' :: (indentedMembers (level + 1) (member :: rest) ++ breakLine level ++ ['}'])
  | value => value.chars

def indentedItems (level : Nat) : List Json → List Char
  | [] => []
  | [item] => breakLine level ++ indentedChars level item
  | item :: rest => breakLine level ++ indentedChars level item ++ ',' :: indentedItems level rest

def indentedMembers (level : Nat) : List (String × Json) → List Char
  | [] => []
  | [(key, value)] => breakLine level ++ quoted key.toList ++ ':' :: ' ' :: indentedChars level value
  | (key, value) :: rest =>
    breakLine level ++ quoted key.toList ++ ':' :: ' ' :: indentedChars level value ++
      ',' :: indentedMembers level rest

end

def indentedText (value : Json) : String := String.ofList (indentedChars 0 value)

end Telemetry.Json
