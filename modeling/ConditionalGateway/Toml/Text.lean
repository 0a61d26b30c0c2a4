import ConditionalGateway.Unicode.Classes

/-!
# Text of TOML documents

Blanks, comments, line ends and the four kinds of strings. A reader gives what
it read with the characters behind it, or nothing. Characters that are not in
a class named here, controls above all, stand nowhere in a document.
-/

namespace ConditionalGateway.Toml

open Unicode

abbrev Reader (α : Type) : Type := List Char → Option (α × List Char)

def isWs (c : Char) : Bool := c == ' ' || c == '\t'

def skipWs (cs : List Char) : List Char := cs.dropWhile isWs

/-- The characters of comments and strings: no control but the tab, and not the last of ASCII. -/
def isPlain (c : Char) : Bool := c == '\t' || (32 ≤ c.toNat && c.toNat ≠ 127)

def newline? : List Char → Option (List Char)
  | '\n' :: rest => some rest
  | '\r' :: '\n' :: rest => some rest
  | _ => none

def skipComment : List Char → List Char
  | '#' :: rest => rest.dropWhile isPlain
  | cs => cs

def lineEnd? (cs : List Char) : Option (List Char) :=
  match skipComment (skipWs cs) with
  | [] => some []
  | cs => newline? cs

def skipLines : Nat → List Char → List Char
  | 0, cs => cs
  | fuel + 1, cs =>
    let cs := skipWs cs
    match newline? (skipComment cs) with
    | some rest => skipLines fuel rest
    | none => cs

def readNumbered? (digits : Nat) : Reader Char := fun cs =>
  let ds := cs.take digits
  let n := natOfRadix 16 ds
  if ds.length < digits || !ds.all isHexDigit then none
  else if h : n.isValidChar then some (Char.ofNatAux n h, cs.drop digits)
  else none

def readEscape? : Reader Char
  | 'b' :: rest => some ('\x08', rest)
  | 'f' :: rest => some ('\x0c', rest)
  | 'n' :: rest => some ('\n', rest)
  | 'r' :: rest => some ('\r', rest)
  | 't' :: rest => some ('\t', rest)
  | '\\' :: rest => some ('\\', rest)
  | '"' :: rest => some ('"', rest)
  | 'u' :: rest => readNumbered? 4 rest
  | 'U' :: rest => readNumbered? 8 rest
  | _ => none

/-- Puts a character in front of what is read behind it. -/
def consTo (c : Char) (r : Option (List Char × List Char)) : Option (List Char × List Char) :=
  r.map fun (text, rest) => (c :: text, rest)

def readBasic : Nat → List Char → Option (List Char × List Char)
  | 0, _ => none
  | fuel + 1, cs =>
    match cs with
    | [] => none
    | '"' :: rest => some ([], rest)
    | '\\' :: rest =>
      match readEscape? rest with
      | some (c, rest) => consTo c (readBasic fuel rest)
      | none => none
    | c :: rest => if isPlain c then consTo c (readBasic fuel rest) else none

def readLiteral (cs : List Char) : Option (List Char × List Char) :=
  let isInside := fun c => isPlain c && c ≠ '\''
  match cs.dropWhile isInside with
  | '\'' :: rest => some (cs.takeWhile isInside, rest)
  | _ => none

/-- A run of quotes inside a string that three of them end: fewer than three belong to the text,
three end it, and up to two more before those belong to the text as well. -/
def closeQuotes (quote : Char) (cs : List Char) : Option (List Char × List Char × Bool) :=
  let run := (cs.takeWhile (· = quote)).length
  let rest := cs.dropWhile (· = quote)
  if run < 3 then some (List.replicate run quote, rest, false)
  else if run ≤ 5 then some (List.replicate (run - 3) quote, rest, true)
  else none

def skipBlankLines : Nat → List Char → List Char
  | 0, cs => cs
  | fuel + 1, cs =>
    match newline? (skipWs cs) with
    | some rest => skipBlankLines fuel rest
    | none => skipWs cs

/-- Goes past a line end behind a backslash, with all blanks and empty lines behind it. -/
def skipJoined? (cs : List Char) : Option (List Char) :=
  (newline? (skipWs cs)).map fun rest => skipBlankLines (rest.length + 1) rest

def readBasicLines : Nat → List Char → Option (List Char × List Char)
  | 0, _ => none
  | fuel + 1, cs =>
    match cs with
    | [] => none
    | '"' :: _ => do
      let (quotes, rest, ended) ← closeQuotes '"' cs
      if ended then some (quotes, rest)
      else (readBasicLines fuel rest).map fun (text, rest) => (quotes ++ text, rest)
    | '\\' :: rest =>
      match skipJoined? rest with
      | some rest => readBasicLines fuel rest
      | none =>
        match readEscape? rest with
        | some (c, rest) => consTo c (readBasicLines fuel rest)
        | none => none
    | c :: rest =>
      match newline? cs with
      | some rest => consTo '\n' (readBasicLines fuel rest)
      | none => if isPlain c then consTo c (readBasicLines fuel rest) else none

def readLiteralLines : Nat → List Char → Option (List Char × List Char)
  | 0, _ => none
  | fuel + 1, cs =>
    match cs with
    | [] => none
    | '\'' :: _ => do
      let (quotes, rest, ended) ← closeQuotes '\'' cs
      if ended then some (quotes, rest)
      else (readLiteralLines fuel rest).map fun (text, rest) => (quotes ++ text, rest)
    | c :: rest =>
      match newline? cs with
      | some rest => consTo '\n' (readLiteralLines fuel rest)
      | none => if isPlain c then consTo c (readLiteralLines fuel rest) else none

/-- A line end right behind the opening quotes does not count. -/
def dropFirstNewline (cs : List Char) : List Char := (newline? cs).getD cs

/-- A string of one line, which is what a key can be. -/
def readLineString? : Reader String := fun cs =>
  let text := match cs with
    | '"' :: rest => readBasic (rest.length + 1) rest
    | '\'' :: rest => readLiteral rest
    | _ => none
  text.map fun (text, rest) => (String.ofList text, rest)

def readString? : Reader String := fun cs =>
  match cs with
  | '"' :: '"' :: '"' :: rest =>
    (readBasicLines (rest.length + 1) (dropFirstNewline rest)).map fun (text, rest) =>
      (String.ofList text, rest)
  | '\'' :: '\'' :: '\'' :: rest =>
    (readLiteralLines (rest.length + 1) (dropFirstNewline rest)).map fun (text, rest) =>
      (String.ofList text, rest)
  | cs => readLineString? cs

end ConditionalGateway.Toml
