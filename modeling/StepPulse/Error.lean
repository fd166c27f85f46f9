import StepPulse.Lines
import StepPulse.Number.Positional

namespace StepPulse

/-- A reason given by a reader of foreign text, kept only when it takes at most 128 bytes. -/
structure Reason where
  text : String
  fits : text.utf8ByteSize ≤ 128 := by decide
  deriving DecidableEq

def Reason.ofText (text : String) : Reason :=
  if fits : text.utf8ByteSize ≤ 128 then ⟨text, fits⟩ else ⟨"", by decide⟩

inductive SettingsError where
  | malformed
  | document (reason : Reason)
  | tickFrequency (given : UInt32)
  | accelerationTicks (given limit : UInt32)
  | pulseWidth (width period : UInt32)
  | segmentStepCap (given : UInt32)
  | minimumStepRate (given : UInt32)
  | fixedPointScale (given : Float32)
  | invertMask (given : Lines)
  | missing (component : String)
  | file (reason : Reason)
  deriving DecidableEq

inductive LineError where
  | step
  | direction
  | disable
  deriving DecidableEq, Repr

inductive BlockError where
  | queueFull
  | empty
  | length (given : Float32)
  | speed (given : Float32)
  | entryAboveNominal (entry nominal : Float32)
  | acceleration (given : Float32)
  deriving DecidableEq, Repr

inductive Error where
  | settings (cause : SettingsError)
  | line (cause : LineError)
  | block (cause : BlockError)
  deriving DecidableEq

def Lines.binaryText (a : Lines) : String :=
  let digits := Nat.toDigits 2 a.bits.toNat
  "0b" ++ String.ofList (List.replicate (8 - digits.length) '0' ++ digits)

def SettingsError.message : SettingsError → String
  | malformed => "Parse error: malformed document"
  | document reason => "Parse error: " ++ reason.text
  | tickFrequency given => s!"Invalid tick frequency: {given} Hz. Must be > 0"
  | accelerationTicks given limit =>
    s!"Invalid acceleration tick rate: {given}. Must be 1-{limit}"
  | pulseWidth width period =>
    s!"Step pulse of {width} us does not fit in a {period} us tick period"
  | segmentStepCap given => s!"Invalid segment step cap: {given}. Must be > 0"
  | minimumStepRate given => s!"Invalid minimum step rate: {given}. Must be > 0"
  | fixedPointScale given =>
    "Invalid fixed-point scale: " ++ Positional.ofSingle given ++ ". Must be > 0"
  | invertMask given =>
    "Invalid invert mask: " ++ given.binaryText ++ ". Only the low six bits are used"
  | missing component => component ++ " is required"
  | file reason => "I/O error: " ++ reason.text

def LineError.message : LineError → String
  | step => "step pin write failed"
  | direction => "direction pin write failed"
  | disable => "driver disable pin write failed"

def BlockError.message : BlockError → String
  | queueFull => "Planner block queue is full"
  | empty => "Block has no step events"
  | length given => "Invalid block length: " ++ Positional.ofSingle given ++ ". Must be > 0"
  | speed given => "Invalid speed: " ++ Positional.ofSingle given
  | entryAboveNominal entry nominal =>
    "Entry speed " ++ Positional.ofSingle entry ++ " exceeds nominal speed " ++
      Positional.ofSingle nominal
  | acceleration given => "Invalid acceleration: " ++ Positional.ofSingle given ++ ". Must be > 0"

def Error.detail : Error → String
  | settings cause => cause.message
  | line cause => cause.message
  | block cause => cause.message

def Error.message (e : Error) : String :=
  match e with
  | settings _ => "Configuration error: " ++ e.detail
  | line _ => "Port error: " ++ e.detail
  | block _ => "Planner error: " ++ e.detail

end StepPulse
