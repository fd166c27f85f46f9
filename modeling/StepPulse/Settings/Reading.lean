import StepPulse.Number.Positional
import StepPulse.Settings.Basic
import StepPulse.Text.Escaped
import StepPulse.Toml.Document

/-! Settings from the table `stepper` of a TOML document. -/

namespace StepPulse

open Toml (Value Entries)

inductive Mismatch where
  | kind (found : Value) (expected : String)
  | range (found : Int) (expected : String)

namespace Mismatch

def wholeText (n : Int) : String := "integer `" ++ toString n ++ "`"

def floatText (a : Float) : String :=
  let text := Positional.ofDouble a
  "floating point `" ++ (if a.isFinite && !text.contains '.' then text ++ ".0" else text) ++ "`"

def kindText : Value → String
  | .text content => "string " ++ Text.quote content
  | .integer n => wholeText n
  | .float a => floatText a
  | .boolean b => "boolean `" ++ toString b ++ "`"
  | .moment => "map"
  | .array _ => "sequence"
  | .tables _ => "sequence"
  | .table _ _ => "map"

def message : Mismatch → String
  | kind found expected => "invalid type: " ++ kindText found ++ ", expected " ++ expected
  | range found expected => "invalid value: " ++ wholeText found ++ ", expected " ++ expected

end Mismatch

namespace Settings

def readWhole (bits : Nat) (v : Value) : Except Mismatch Nat :=
  let expected := "u" ++ toString bits
  match v with
  | .integer n =>
    if 0 ≤ n ∧ n.toNat < Nat.pow 2 bits then .ok n.toNat else .error (.range n expected)
  | v => .error (.kind v expected)

def readWord (v : Value) : Except Mismatch UInt32 := (readWhole 32 v).map UInt32.ofNat

def readLines (v : Value) : Except Mismatch Lines :=
  (readWhole 8 v).map fun n => ⟨UInt8.ofNat n⟩

def readSwitch : Value → Except Mismatch Bool
  | .boolean b => .ok b
  | v => .error (.kind v "a boolean")

/-- A number with or without a fraction, rounded once. -/
def readSingle : Value → Except Mismatch Float32
  | .float a => .ok (Ieee.narrow a)
  | .integer n => .ok (Float32.ofInt n)
  | v => .error (.kind v "f32")

def fields : List (String × (Settings → Value → Except Mismatch Settings)) :=
  [("tick_frequency_hz", fun s v => do return { s with tickFrequency := ⟨← readWord v⟩ }),
    ("acceleration_ticks_per_second", fun s v => do
      return { s with accelerationTicks := ← readWord v }),
    ("minimum_step_rate", fun s v => do return { s with minimumStepRate := ← readWord v }),
    ("pulse_width_us", fun s v => do return { s with pulseWidth := ⟨← readWord v⟩ }),
    ("invert_mask", fun s v => do return { s with invertMask := ← readLines v }),
    ("invert_enable", fun s v => do return { s with invertEnable := ← readSwitch v }),
    ("idle_lock_time_ms", fun s v => do return { s with idleLockTime := ⟨← readWord v⟩ }),
    ("keep_enabled_when_idle", fun s v => do
      return { s with keepEnabledWhenIdle := ← readSwitch v }),
    ("fixed_point_scale", fun s v => do return { s with fixedPointScale := ← readSingle v }),
    ("segment_step_cap", fun s v => do return { s with segmentStepCap := ← readWord v })]

def ofEntries (entries : Entries) : Except Mismatch Settings :=
  entries.foldlM
    (fun s (name, v) =>
      match fields.lookup name with
      | some read => read s v
      | none => .ok s)
    {}

def ofItems (items : List Value) : Except Mismatch Settings :=
  (fields.zip items).foldlM (fun s ((_, read), v) => read s v) {}

def ofValue : Value → Except Mismatch Settings
  | .table _ entries => ofEntries entries
  | .moment => .ok {}
  | .array items => ofItems items
  | .tables tables => ofItems (tables.map (.table .header))
  | v => .error (.kind v "struct StepperSettings")

def ofText (text : String) : Except SettingsError Settings :=
  match Toml.parse? text with
  | none => .error .malformed
  | some entries =>
    match ((entries.lookup "stepper").map ofValue).getD (.ok {}) with
    | .error mismatch => .error (.document (Reason.ofText mismatch.message))
    | .ok s => s.check.map fun _ => s

def ofBytes (bytes : ByteArray) : Except SettingsError Settings :=
  match String.fromUTF8? bytes with
  | none => .error (.file (Reason.ofText "stream did not contain valid UTF-8"))
  | some text => ofText text

end Settings

end StepPulse
