import StepPulse.Toml.Scan
import StepPulse.Toml.Value

namespace StepPulse.Toml.Scalar

def isPart (c : Char) : Bool :=
  c.isAlphanum || c == '+' || c == '-' || c == '_' || c == '.' || c == ':'

/-- Digits with single underscores between them; their values. `digitNext` holds at the start and
after an underscore. -/
def digits? (base : Nat) (digitNext : Bool) : List Char → Option (List Nat)
  | [] => if digitNext then none else some []
  | '_' :: rest => if digitNext then none else digits? base true rest
  | c :: rest => do
    let d ← Scan.digit? base c
    let others ← digits? base false rest
    some (d :: others)

def signed : List Char → Bool × List Char
  | '+' :: rest => (false, rest)
  | '-' :: rest => (true, rest)
  | cs => (false, cs)

def decimal? (cs : List Char) : Option (List Nat) := do
  let digits ← digits? 10 true cs
  if digits.length > 1 ∧ digits.head? = some 0 then none else some digits

def inRange? (n : Int) : Option Int :=
  if -9223372036854775808 ≤ n ∧ n ≤ 9223372036854775807 then some n else none

def integer? : List Char → Option Int
  | '0' :: 'x' :: cs => do inRange? (Scan.number 16 (← digits? 16 true cs))
  | '0' :: 'o' :: cs => do inRange? (Scan.number 8 (← digits? 8 true cs))
  | '0' :: 'b' :: cs => do inRange? (Scan.number 2 (← digits? 2 true cs))
  | cs => do
    let (negative, cs) := signed cs
    let n : Int := Scan.number 10 (← decimal? cs)
    inRange? (if negative then -n else n)

/-- The double nearest to `digits * 10 ^ exponent`. Numbers far outside the range of doubles are
told by their order alone. -/
def nearest (digits : Nat) (exponent : Int) : Float :=
  let order := (Nat.toDigits 10 digits).length + exponent
  if digits = 0 ∨ order < -400 then 0.0
  else if 400 < order then 1.0 / 0.0
  else Float.ofScientific digits (exponent < 0) exponent.natAbs

def exponent? : List Char → Option Int
  | [] => some 0
  | mark :: cs =>
    if mark = 'e' ∨ mark = 'E' then do
      let (negative, cs) := signed cs
      let n : Int := Scan.number 10 (← digits? 10 true cs)
      some (if negative then -n else n)
    else none

/-- A number with a fraction, an exponent or both. A value too large upwards is refused. -/
def decimalFloat? (cs : List Char) : Option Float := do
  let (negative, cs) := signed cs
  let inDigits (c : Char) : Bool := c.isDigit || c == '_'
  let whole ← decimal? (cs.takeWhile inDigits)
  let (fraction, rest) ←
    match cs.dropWhile inDigits with
    | [] => none
    | '.' :: rest => do some (← digits? 10 true (rest.takeWhile inDigits), rest.dropWhile inDigits)
    | rest => some ([], rest)
  let exponent ← exponent? rest
  let value := nearest (Scan.number 10 (whole ++ fraction)) (exponent - fraction.length)
  if negative then some (-value) else if value.isInf then none else some value

def float? (cs : List Char) : Option Float :=
  let (negative, word) := signed cs
  let sign (a : Float) : Float := if negative then -a else a
  if word = "inf".toList then some (sign (1.0 / 0.0))
  else if word = "nan".toList then some (0.0 / 0.0)
  else decimalFloat? cs

def field? (low high : Nat) (cs : List Char) : Option Nat := do
  let n := Scan.number 10 (← cs.mapM (Scan.digit? 10))
  if low ≤ n ∧ n ≤ high then some n else none

def daysIn (year month : Nat) : Nat :=
  if month = 2 then
    if year % 4 = 0 ∧ (year % 100 ≠ 0 ∨ year % 400 = 0) then 29 else 28
  else if month = 4 ∨ month = 6 ∨ month = 9 ∨ month = 11 then 30
  else 31

def isDate : List Char → Bool
  | [y₁, y₂, y₃, y₄, '-', m₁, m₂, '-', d₁, d₂] =>
    match field? 0 9999 [y₁, y₂, y₃, y₄], field? 1 12 [m₁, m₂] with
    | some year, some month => (field? 1 (daysIn year month) [d₁, d₂]).isSome
    | _, _ => false
  | _ => false

def isClock : List Char → Bool
  | [h₁, h₂, ':', m₁, m₂] => (field? 0 23 [h₁, h₂]).isSome && (field? 0 59 [m₁, m₂]).isSome
  | _ => false

def isTime : List Char → Bool
  | h₁ :: h₂ :: ':' :: m₁ :: m₂ :: ':' :: s₁ :: s₂ :: rest =>
    isClock [h₁, h₂, ':', m₁, m₂] && (field? 0 60 [s₁, s₂]).isSome &&
      match rest with
      | [] => true
      | '.' :: fraction => !fraction.isEmpty && fraction.all Char.isDigit
      | _ => false
  | _ => false

def isZone : List Char → Bool
  | [] => true
  | ['Z'] => true
  | ['z'] => true
  | '+' :: cs => isClock cs
  | '-' :: cs => isClock cs
  | _ => false

def isZonedTime (cs : List Char) : Bool :=
  let inTime (c : Char) : Bool := c.isDigit || c == ':' || c == '.'
  isTime (cs.takeWhile inTime) && isZone (cs.dropWhile inTime)

def isMoment (cs : List Char) : Bool :=
  isDate cs || isTime cs ||
    isDate (cs.take 10) &&
      match cs.drop 10 with
      | 'T' :: time => isZonedTime time
      | 't' :: time => isZonedTime time
      | _ => false

def ofWord? (word : List Char) : Option Value :=
  if word = "true".toList then some (.boolean true)
  else if word = "false".toList then some (.boolean false)
  else if isMoment word then some .moment
  else match float? word with
    | some a => some (.float a)
    | none => (integer? word).map .integer

def scan : Scan Value := fun cs =>
  let word := cs.takeWhile isPart
  let rest := cs.dropWhile isPart
  match rest with
  | ' ' :: more =>
    if isDate word && isZonedTime (more.takeWhile isPart) then
      some (.moment, more.dropWhile isPart)
    else (ofWord? word).map (·, rest)
  | _ => (ofWord? word).map (·, rest)

end StepPulse.Toml.Scalar
