import StepPulse.Toml.Scan
import StepPulse.Toml.Scalar

namespace StepPulse.Toml

/-- The most parts of a dotted key, and the most brackets around a value. -/
def nestingLimit : Nat := 79

namespace Key

def isBare (c : Char) : Bool := c.isAlphanum || c == '-' || c == '_'

def part : Scan String := fun cs =>
  let cs := Scan.skipBlanks cs
  let word := cs.takeWhile isBare
  let found := if word.isEmpty then Quoted.line cs else some (word, cs.dropWhile isBare)
  found.map fun (word, rest) => (String.ofList word, Scan.skipBlanks rest)

def parts : Nat → Scan (List String)
  | 0, _ => none
  | room + 1, cs => do
    let (first, rest) ← part cs
    match rest with
    | '.' :: rest => do
      let (others, rest) ← parts room rest
      some (first :: others, rest)
    | rest => some ([first], rest)

def scan : Scan (List String × String) := fun cs => do
  let (path, rest) ← parts nestingLimit cs
  let last ← path.getLast?
  some ((path.dropLast, last), rest)

end Key

namespace Item

def items (value : Scan Value) : Nat → Scan (List Value)
  | 0, _ => none
  | fuel + 1, cs =>
    match Scan.skipLines cs with
    | ']' :: rest => some ([], rest)
    | cs => do
      let (first, rest) ← value cs
      match Scan.skipLines rest with
      | ',' :: rest => do
        let (others, rest) ← items value fuel rest
        some (first :: others, rest)
      | ']' :: rest => some ([first], rest)
      | _ => none

def pair (value : Scan Value) : Scan ((List String × String) × Value) := fun cs => do
  let (key, rest) ← Key.scan cs
  match rest with
  | '=' :: rest => do
    let (v, rest) ← value (Scan.skipBlanks rest)
    some ((key, v), rest)
  | _ => none

def entries (value : Scan Value) : Nat → Entries → Scan Entries
  | 0, _, _ => none
  | fuel + 1, read, cs => do
    let (((path, key), v), rest) ← pair value cs
    let read ← read.insertAt? path key v
    match Scan.skipBlanks rest with
    | ',' :: rest => entries value fuel read rest
    | '}' :: rest => some (read, rest)
    | _ => none

def value : Nat → Scan Value
  | 0, cs =>
    match cs with
    | '"' :: _ | '\'' :: _ => (Quoted.any cs).map fun (t, rest) => (.text (String.ofList t), rest)
    | cs => Scalar.scan cs
  | depth + 1, cs =>
    match cs with
    | '"' :: _ | '\'' :: _ => (Quoted.any cs).map fun (t, rest) => (.text (String.ofList t), rest)
    | '[' :: rest => (items (value depth) rest.length.succ rest).map fun (vs, rest) =>
      (.array vs, rest)
    | '{' :: rest =>
      match Scan.skipBlanks rest with
      | '}' :: rest => some (.table .inline [], rest)
      | _ => (entries (value depth) rest.length.succ [] rest).map fun (es, rest) =>
        (.table .inline es, rest)
    | cs => Scalar.scan cs

end Item

end StepPulse.Toml
