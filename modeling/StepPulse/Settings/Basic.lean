import StepPulse.Error

/-! Physical quantities, each in one unit, and the settings of a machine. -/

namespace StepPulse

structure Hertz where
  value : UInt32
  deriving DecidableEq, Repr, Inhabited

structure Microseconds where
  value : UInt32
  deriving DecidableEq, Repr, Inhabited

structure Milliseconds where
  value : UInt32
  deriving DecidableEq, Repr, Inhabited

/-- Whole microseconds in one cycle; a stopped clock has the longest period. -/
def Hertz.period (f : Hertz) : Microseconds :=
  if f.value = 0 then ⟨4294967295⟩ else ⟨1000000 / f.value⟩

/-- Millimetres per minute. -/
structure Speed where
  value : Float32
  deriving DecidableEq, Repr, Inhabited

def Speed.squared (v : Speed) : Float32 := v.value * v.value

/-- Millimetres per minute squared. -/
structure Acceleration where
  value : Float32
  deriving DecidableEq, Repr, Inhabited

def Acceleration.ofPerSecond (a : Float32) : Acceleration := ⟨a * 3600.0⟩

abbrev Steps := Int

structure Settings where
  tickFrequency : Hertz := ⟨20000⟩
  accelerationTicks : UInt32 := 100
  /-- The lowest rate at which the machine runs, in distance units per tick. -/
  minimumStepRate : UInt32 := 800
  pulseWidth : Microseconds := ⟨10⟩
  invertMask : Lines := Lines.none
  /-- A high level of the disable line energizes the drivers. -/
  invertEnable : Bool := false
  idleLockTime : Milliseconds := ⟨25⟩
  /-- Keep the drivers energized when idle, save in an alarm. -/
  keepEnabledWhenIdle : Bool := false
  /-- Distance units per millimetre. -/
  fixedPointScale : Float32 := 10000000.0
  segmentStepCap : UInt32 := 250
  deriving DecidableEq, Repr

namespace Settings

instance : Inhabited Settings := ⟨{}⟩

def rampPeriod (s : Settings) : UInt32 :=
  max (s.tickFrequency.value / max s.accelerationTicks 1) 1

def tickPeriod (s : Settings) : Microseconds := s.tickFrequency.period

def enableLevel (s : Settings) : Bool := s.invertEnable

def disableLevel (s : Settings) : Bool := !s.invertEnable

def check (s : Settings) : Except SettingsError Unit :=
  let frequency := s.tickFrequency.value
  if frequency = 0 then
    .error (.tickFrequency frequency)
  else if s.accelerationTicks = 0 ∨ frequency < s.accelerationTicks then
    .error (.accelerationTicks s.accelerationTicks frequency)
  else if s.tickPeriod.value ≤ s.pulseWidth.value then
    .error (.pulseWidth s.pulseWidth.value s.tickPeriod.value)
  else if s.segmentStepCap = 0 then
    .error (.segmentStepCap s.segmentStepCap)
  else if s.minimumStepRate = 0 then
    .error (.minimumStepRate s.minimumStepRate)
  else if ¬ s.fixedPointScale.isFinite ∨ s.fixedPointScale ≤ 0 then
    .error (.fixedPointScale s.fixedPointScale)
  else if ¬ Lines.all.contains s.invertMask then
    .error (.invertMask s.invertMask)
  else .ok ()

end Settings

end StepPulse
