import StepPulse.Number.Arithmetic

/-!
The shortest decimal that reads back as a given binary float. The reals that round to the float
form an interval around it, whose ends belong to it exactly when its mantissa is even. The decimal
is sought on grids of ever finer decimal steps: the first grid with a point in the interval wins,
of two such points the nearer to the float, and of two equally near the larger.
-/

namespace StepPulse

structure Decimal where
  digits : Nat
  exponent : Int
  deriving DecidableEq, Repr, Inhabited

/-- The float `value / unit` and the ends of the interval of reals that round to it. -/
structure RoundingInterval where
  low : Nat
  value : Nat
  high : Nat
  unit : Nat
  closed : Bool

namespace RoundingInterval

open Float.Model

/-- Below a power of two the floats lie twice as dense, save at the least exponent. -/
def ofFloat (format : Format) (mantissa : Nat) (exponent : Int) : RoundingInterval :=
  let denseBelow := mantissa == Nat.pow 2 (format.mantissaBits - 1) && format.minExponent < exponent
  let scale := Nat.pow 2 (exponent - 2).toNat
  { low := (4 * mantissa - if denseBelow then 1 else 2) * scale
    value := 4 * mantissa * scale
    high := (4 * mantissa + 2) * scale
    unit := Nat.pow 2 (2 - exponent).toNat
    closed := mantissa % 2 == 0 }

def holds (i : RoundingInterval) (point : Decimal) : Bool :=
  let p := point.digits * Nat.pow 10 point.exponent.toNat * i.unit
  let q := Nat.pow 10 (-point.exponent).toNat
  if i.closed then i.low * q ≤ p && p ≤ i.high * q else i.low * q < p && p < i.high * q

def below (i : RoundingInterval) (exponent : Int) : Decimal :=
  ⟨i.value * Nat.pow 10 (-exponent).toNat / (i.unit * Nat.pow 10 exponent.toNat), exponent⟩

def onGrid? (i : RoundingInterval) (exponent : Int) : Option Decimal :=
  let down := i.below exponent
  let up : Decimal := ⟨down.digits + 1, exponent⟩
  let q := Nat.pow 10 (-exponent).toNat
  let step := i.unit * Nat.pow 10 exponent.toNat
  let upNearer := (2 * down.digits + 1) * step ≤ 2 * (i.value * q)
  match i.holds down, i.holds up with
  | true, true => some (if upNearer then up else down)
  | true, false => some down
  | false, true => some up
  | false, false => none

def order (i : RoundingInterval) : Int :=
  let shift := Nat.log2 i.unit
  let lead := i.value * Nat.pow 10 shift / i.unit
  (Nat.toDigits 10 lead).length - shift

def search (i : RoundingInterval) (exponent : Int) : Nat → Decimal
  | 0 => i.below exponent
  | tries + 1 => (i.onGrid? exponent).getD (i.search (exponent - 1) tries)

/-- Seventeen digits tell all doubles apart, so the search ends within as many grids. -/
def shortest (i : RoundingInterval) : Decimal :=
  let found := i.search (i.order - 1) 17
  if found.digits % 10 = 0 then ⟨found.digits / 10, found.exponent + 1⟩ else found

end RoundingInterval

open Float.Model

def Decimal.text (d : Decimal) : String :=
  let digits := Nat.toDigits 10 d.digits
  let point : Int := digits.length + d.exponent
  let zeros (n : Int) : List Char := List.replicate n.toNat '0'
  String.ofList <|
    if 0 ≤ d.exponent then digits ++ zeros d.exponent
    else if 0 < point then digits.take point.toNat ++ '.' :: digits.drop point.toNat
    else '0' :: '.' :: (zeros (-point) ++ digits)

namespace Positional

def signText : UnpackedFloat.Sign → String
  | .positive => ""
  | .negative => "-"

def text (format : Format) : UnpackedFloat → String
  | .notANumber => "NaN"
  | .infinity sign => signText sign ++ "inf"
  | .zero sign => signText sign ++ "0"
  | .finite sign mantissa exponent _ =>
    signText sign ++ (RoundingInterval.ofFloat format mantissa exponent).shortest.text

def ofSingle (a : Float32) : String := text .binary32 a.toModel.unpack

def ofDouble (a : Float) : String := text .binary64 a.toModel.unpack

end Positional

end StepPulse
