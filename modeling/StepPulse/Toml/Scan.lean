/-! Scanning a text from its front, and texts in quotes. -/

namespace StepPulse.Toml

abbrev Scan (α : Type) := List Char → Option (α × List Char)

namespace Scan

def isBlank (c : Char) : Bool := c == ' ' || c == '\t'

def isPlain (c : Char) : Bool := c == '\t' || (' ' ≤ c && c ≠ '\x7f')

def skipBlanks (cs : List Char) : List Char := cs.dropWhile isBlank

def newline? : List Char → Option (List Char)
  | '\n' :: rest => some rest
  | '\r' :: '\n' :: rest => some rest
  | _ => none

def skipComment : List Char → List Char
  | '#' :: rest => rest.dropWhile isPlain
  | cs => cs

def lineEnd? (cs : List Char) : Option (List Char) :=
  match skipComment (skipBlanks cs) with
  | [] => some []
  | cs => newline? cs

def digit? (base : Nat) (c : Char) : Option Nat :=
  let value :=
    if '0' ≤ c ∧ c ≤ '9' then c.toNat - '0'.toNat
    else if 'a' ≤ c ∧ c ≤ 'z' then c.toNat - 'a'.toNat + 10
    else if 'A' ≤ c ∧ c ≤ 'Z' then c.toNat - 'A'.toNat + 10
    else base
  if value < base then some value else none

def number (base : Nat) (digits : List Nat) : Nat := digits.foldl (fun n d => base * n + d) 0

def skipLines (cs : List Char) : List Char :=
  go cs.length cs
where
  go : Nat → List Char → List Char
    | 0, cs => cs
    | fuel + 1, cs =>
      let cs := skipBlanks cs
      match newline? (skipComment cs) with
      | some rest => go fuel rest
      | none => cs

end Scan

namespace Quoted

def codePoint? (digits : List Char) : Option Char := do
  let code := Scan.number 16 (← digits.mapM (Scan.digit? 16))
  if code.isValidChar then some (Char.ofNat code) else none

def escape? : Char → Option Char
  | 'b' => some '\x08'
  | 't' => some '\t'
  | 'n' => some '\n'
  | 'f' => some '\x0c'
  | 'r' => some '\r'
  | '"' => some '"'
  | '\\' => some '\\'
  | _ => none

def basic (read : List Char) : Scan (List Char)
  | '"' :: rest => some (read.reverse, rest)
  | '\\' :: 'u' :: a :: b :: c :: d :: rest => do
    basic ((← codePoint? [a, b, c, d]) :: read) rest
  | '\\' :: 'U' :: a :: b :: c :: d :: e :: f :: g :: h :: rest => do
    basic ((← codePoint? [a, b, c, d, e, f, g, h]) :: read) rest
  | '\\' :: c :: rest => do basic ((← escape? c) :: read) rest
  | c :: rest => if Scan.isPlain c then basic (c :: read) rest else none
  | [] => none

def literal (read : List Char) : Scan (List Char)
  | '\'' :: rest => some (read.reverse, rest)
  | c :: rest => if Scan.isPlain c then literal (c :: read) rest else none
  | [] => none

/-- Three quotes close a text of several lines; one or two more just before them belong to it. -/
def closing (quote : Char) (read rest : List Char) : List Char × List Char :=
  match rest with
  | a :: b :: rest' =>
    if a = quote ∧ b = quote then ((quote :: quote :: read).reverse, rest')
    else if a = quote then ((quote :: read).reverse, b :: rest')
    else (read.reverse, rest)
  | [a] => if a = quote then ((quote :: read).reverse, []) else (read.reverse, rest)
  | [] => (read.reverse, [])

def joinsLines (rest : List Char) : Bool := (Scan.newline? (Scan.skipBlanks rest)).isSome

/-- The content of a basic text of several lines. While `joining`, blanks and line ends are left
out. -/
def basicLines (joining : Bool) (read : List Char) : Scan (List Char)
  | '"' :: '"' :: '"' :: rest => some (closing '"' read rest)
  | '\\' :: 'u' :: a :: b :: c :: d :: rest => do
    basicLines false ((← codePoint? [a, b, c, d]) :: read) rest
  | '\\' :: 'U' :: a :: b :: c :: d :: e :: f :: g :: h :: rest => do
    basicLines false ((← codePoint? [a, b, c, d, e, f, g, h]) :: read) rest
  | '\\' :: c :: rest =>
    if joinsLines (c :: rest) then basicLines true read (c :: rest)
    else do basicLines false ((← escape? c) :: read) rest
  | '\r' :: '\n' :: rest => basicLines joining (if joining then read else '\n' :: read) rest
  | '\n' :: rest => basicLines joining (if joining then read else '\n' :: read) rest
  | c :: rest =>
    if joining && Scan.isBlank c then basicLines true read rest
    else if Scan.isPlain c then basicLines false (c :: read) rest
    else none
  | [] => none

def literalLines (read : List Char) : Scan (List Char)
  | '\'' :: '\'' :: '\'' :: rest => some (closing '\'' read rest)
  | '\r' :: '\n' :: rest => literalLines ('\n' :: read) rest
  | '\n' :: rest => literalLines ('\n' :: read) rest
  | c :: rest => if Scan.isPlain c then literalLines (c :: read) rest else none
  | [] => none

def skipNewline (cs : List Char) : List Char := (Scan.newline? cs).getD cs

def line : Scan (List Char)
  | '"' :: rest => basic [] rest
  | '\'' :: rest => literal [] rest
  | _ => none

def any : Scan (List Char)
  | '"' :: '"' :: '"' :: rest => basicLines false [] (skipNewline rest)
  | '\'' :: '\'' :: '\'' :: rest => literalLines [] (skipNewline rest)
  | cs => line cs

end Quoted

end StepPulse.Toml
