import ConditionalGateway.Toml.Document
import ConditionalGateway.Toml.Scalar

/-!
# Reading TOML documents

Keys, values with parts, and the lines of a document. How deep values may nest
is bounded, so reading them is a recursion on the room that is left.
-/

namespace ConditionalGateway.Toml

open Unicode Config

/-- How deep arrays and inline tables may nest, and how many parts a key may have. -/
def maxDepth : Nat := 79

def isBareKeyChar (c : Char) : Bool :=
  isAsciiLetter c || isAsciiDigit c || c == '-' || c == '_'

def readKeyPart? : Reader String := fun cs =>
  match cs.head? with
  | some '"' => readLineString? cs
  | some '\'' => readLineString? cs
  | _ =>
    let bare := cs.takeWhile isBareKeyChar
    if bare.isEmpty then none else some (String.ofList bare, cs.dropWhile isBareKeyChar)

def readKeyParts? : Nat → Reader (List String)
  | 0, _ => none
  | room + 1, cs => do
    let (part, rest) ← readKeyPart? (skipWs cs)
    match skipWs rest with
    | '.' :: rest =>
      let (parts, rest) ← readKeyParts? room rest
      some (part :: parts, rest)
    | rest => some ([part], rest)

structure Key where
  path : List String
  name : String

def readKey? : Reader Key := fun cs => do
  let (parts, rest) ← readKeyParts? maxDepth cs
  some (⟨parts.dropLast, ← parts.getLast?⟩, rest)

/-- Reads the items of an array up to its bracket; the last one may have a comma behind it. -/
def readItems? (readOne : Reader Value) : Nat → Reader (List Value)
  | 0, _ => none
  | fuel + 1, cs =>
    match skipLines (cs.length + 1) cs with
    | ']' :: rest => some ([], rest)
    | cs => do
      let (v, rest) ← readOne cs
      match skipLines (rest.length + 1) rest with
      | ']' :: rest => some ([v], rest)
      | ',' :: rest =>
        let (vs, rest) ← readItems? readOne fuel rest
        some (v :: vs, rest)
      | _ => none

def readPair? (readOne : Reader Value) : Reader (Key × Value) := fun cs => do
  let (key, rest) ← readKey? cs
  let (v, rest) ← readOne (skipWs (← expect? '=' rest))
  some ((key, v), rest)

def readPairs? (readOne : Reader Value) : Nat → Entries → Reader Entries
  | 0, _, _ => none
  | fuel + 1, es, cs => do
    let ((key, v), rest) ← readPair? readOne cs
    let es ← putDotted key.path key.name v es
    match skipWs rest with
    | ',' :: rest => readPairs? readOne fuel es rest
    | '\x7d' :: rest => some (es, rest)
    | _ => none

def readValue? : Nat → Reader Value
  | 0, cs => readScalar? cs
  | room + 1, cs =>
    match cs with
    | '[' :: rest =>
      (readItems? (readValue? room) (rest.length + 1) rest).map fun (vs, rest) =>
        (.list vs, rest)
    | '\x7b' :: rest =>
      match skipWs rest with
      | '\x7d' :: rest => some (.table [], rest)
      | _ =>
        (readPairs? (readValue? room) (rest.length + 1) [] rest).map fun (es, rest) =>
          (.table (entryValues es), rest)
    | cs => readScalar? cs

/-- A document as far as it has been read: its names, and the table that pairs go to. -/
structure Document where
  entries : Entries := []
  current : List String := []

def Document.put (d : Document) (key : Key) (v : Value) : Option Document :=
  (descend false (fun _ => putDotted key.path key.name v) d.current false d.entries).map
    fun entries => { d with entries }

def Document.readHeader? (d : Document) : List Char → Option (Document × List Char)
  | '[' :: '[' :: rest => do
    let (key, rest) ← readKey? rest
    let rest ← lineEnd? (← expect? ']' (← expect? ']' rest))
    some (⟨← openItem key.path key.name d.entries, key.path ++ [key.name]⟩, rest)
  | cs => do
    let (key, rest) ← readKey? cs.tail
    let rest ← lineEnd? (← expect? ']' rest)
    some (⟨← openTable key.path key.name d.entries, key.path ++ [key.name]⟩, rest)

def Document.readPairLine? (d : Document) (cs : List Char) : Option (Document × List Char) := do
  let ((key, v), rest) ← readPair? (readValue? maxDepth) cs
  some (← d.put key v, ← lineEnd? rest)

def Document.readLines? : Nat → Document → List Char → Option Document
  | 0, _, _ => none
  | fuel + 1, d, cs =>
    match skipWs cs with
    | [] => some d
    | '[' :: rest => do
      let (d, rest) ← d.readHeader? ('[' :: rest)
      readLines? fuel d rest
    | c :: rest =>
      if c = '#' ∨ c = '\n' ∨ c = '\r' then do
        readLines? fuel d (← lineEnd? (c :: rest))
      else do
        let (d, rest) ← d.readPairLine? (c :: rest)
        readLines? fuel d rest

def dropMark (cs : List Char) : List Char :=
  match cs with
  | '\uFEFF' :: rest => rest
  | cs => cs

def ofString? (s : String) : Option Value := do
  let cs := dropMark s.toList
  let d ← Document.readLines? (cs.length + 1) {} cs
  some (.table (entryValues d.entries))

end ConditionalGateway.Toml
