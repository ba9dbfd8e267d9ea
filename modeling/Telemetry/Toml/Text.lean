import Telemetry.Text.Hex

set_option autoImplicit false

namespace Telemetry.Toml

def isSpace (c : Char) : Bool := c == ' ' || c == '\t'

def skipSpaces (cs : List Char) : List Char := cs.dropWhile isSpace

def isControl (c : Char) : Bool := (c.toNat < 32 && c != '\t') || c.toNat == 127

def lineEnd? : List Char → Option (List Char)
  | '\n' :: rest => some rest
  | '\r' :: '\n' :: rest => some rest
  | _ => none

/-- The rest after a comment, if one stands here; it runs to the end of the line. -/
def skipComment? : List Char → Option (List Char)
  | '#' :: rest =>
    let after := rest.dropWhile (!isControl ·)
    if after.isEmpty || (lineEnd? after).isSome then some after else none
  | cs => some cs

def finishLine? (cs : List Char) : Option (List Char) :=
  match skipComment? (skipSpaces cs) with
  | none => none
  | some [] => some []
  | some rest => lineEnd? rest

/-- Skip blanks, line ends and comments. The first argument bounds the number of lines. -/
def skipLines? : Nat → List Char → Option (List Char)
  | 0, cs => some cs
  | fuel + 1, cs =>
    match skipComment? (skipSpaces cs) with
    | none => none
    | some rest =>
      match lineEnd? rest with
      | some rest => skipLines? fuel rest
      | none => some rest

def readHex? : Nat → Nat → List Char → Option (Nat × List Char)
  | 0, value, cs => some (value, cs)
  | _ + 1, _, [] => none
  | count + 1, value, c :: rest =>
    match Text.Hex.value? c with
    | some d => readHex? count (value * 16 + d) rest
    | none => none

def readCodePoint? (count : Nat) (cs : List Char) : Option (Char × List Char) :=
  match readHex? count 0 cs with
  | some (value, rest) => if value.isValidChar then some (Char.ofNat value, rest) else none
  | none => none

def readEscape? : List Char → Option (Char × List Char)
  | 'b' :: rest => some ('\x08', rest)
  | 't' :: rest => some ('\t', rest)
  | 'n' :: rest => some ('\n', rest)
  | 'f' :: rest => some ('\x0c', rest)
  | 'r' :: rest => some ('\r', rest)
  | 'e' :: rest => some ('\x1b', rest)
  | '"' :: rest => some ('"', rest)
  | '\\' :: rest => some ('\\', rest)
  | 'x' :: rest => readCodePoint? 2 rest
  | 'u' :: rest => readCodePoint? 4 rest
  | 'U' :: rest => readCodePoint? 8 rest
  | _ => none

/-- The rest of a string on one line up to its closing quote. The first argument bounds its length. -/
def readLineString? (quote : Char) : Nat → List Char → Option (List Char × List Char)
  | 0, _ => none
  | _ + 1, [] => none
  | fuel + 1, c :: rest =>
    if c = quote then some ([], rest)
    else if c = '\\' ∧ quote = '"' then do
      let (c, rest) ← readEscape? rest
      let (cs, rest) ← readLineString? quote fuel rest
      some (c :: cs, rest)
    else if isControl c then none
    else do
      let (cs, rest) ← readLineString? quote fuel rest
      some (c :: cs, rest)

/-- A backslash at the end of a line continues the string at the next character that is no blank. -/
def continuesAt? (cs : List Char) : Option (List Char) :=
  (lineEnd? (skipSpaces cs)).map fun rest =>
    rest.dropWhile fun c => isSpace c || c == '\n' || c == '\r'

/-- The rest of a string over lines up to its three closing quotes, before which one or two quotes more may
stand. The first argument bounds its length. -/
def readBlockString? (quote : Char) : Nat → List Char → Option (List Char × List Char)
  | 0, _ => none
  | _ + 1, [] => none
  | fuel + 1, c :: rest =>
    if c = quote then
      let quotes := (rest.takeWhile (· == quote)).length + 1
      if quotes < 3 then do
        let (cs, rest) ← readBlockString? quote fuel (rest.drop (quotes - 1))
        some (List.replicate quotes quote ++ cs, rest)
      else
        let kept := min (quotes - 3) 2
        some (List.replicate kept quote, rest.drop (kept + 2))
    else if c = '\\' ∧ quote = '"' then
      match continuesAt? rest with
      | some rest => readBlockString? quote fuel rest
      | none => do
        let (c, rest) ← readEscape? rest
        let (cs, rest) ← readBlockString? quote fuel rest
        some (c :: cs, rest)
    else
      match lineEnd? (c :: rest) with
      | some rest => do
        let (cs, rest) ← readBlockString? quote fuel rest
        some ('\n' :: cs, rest)
      | none =>
        if isControl c then none
        else do
          let (cs, rest) ← readBlockString? quote fuel rest
          some (c :: cs, rest)

/-- A string after its first quote. A line end right after three quotes does not belong to it. -/
def readString? (quote : Char) (cs : List Char) : Option (String × List Char) :=
  let found :=
    match cs with
    | a :: b :: rest =>
      if a = quote ∧ b = quote then
        let body := (lineEnd? rest).getD rest
        readBlockString? quote (body.length + 1) body
      else readLineString? quote (cs.length + 1) cs
    | cs => readLineString? quote (cs.length + 1) cs
  found.map fun (text, rest) => (String.ofList text, rest)

def isBare (c : Char) : Bool := c.isAlphanum || c == '-' || c == '_'

def readSimpleKey? (cs : List Char) : Option (String × List Char) :=
  match cs with
  | '"' :: rest => (readLineString? '"' (rest.length + 1) rest).map fun (key, rest) => (String.ofList key, rest)
  | '\x27' :: rest => (readLineString? '\x27' (rest.length + 1) rest).map fun (key, rest) => (String.ofList key, rest)
  | cs =>
    match cs.takeWhile isBare with
    | [] => none
    | key => some (String.ofList key, cs.dropWhile isBare)

/-- A key with its dots; blanks may stand around them. The first argument bounds the number of parts. -/
def readKey? : Nat → List Char → Option (List String × List Char)
  | 0, _ => none
  | fuel + 1, cs =>
    match readSimpleKey? (skipSpaces cs) with
    | none => none
    | some (key, rest) =>
      match skipSpaces rest with
      | '.' :: rest => (readKey? fuel rest).map fun (keys, rest) => (key :: keys, rest)
      | rest => some ([key], rest)

end Telemetry.Toml
