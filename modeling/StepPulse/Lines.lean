/-! The axes of a machine, and images of its step and direction lines. -/

namespace StepPulse

inductive Axis where
  | x
  | y
  | z
  deriving DecidableEq, Repr

def Axis.all : List Axis := [.x, .y, .z]

@[simp] theorem Axis.mem_all (a : Axis) : a ∈ Axis.all := by cases a <;> decide

structure PerAxis (α : Type) where
  x : α
  y : α
  z : α
  deriving DecidableEq, Repr, Inhabited

namespace PerAxis

variable {α β : Type}

def get (v : PerAxis α) : Axis → α
  | .x => v.x
  | .y => v.y
  | .z => v.z

def tabulate (f : Axis → α) : PerAxis α := ⟨f .x, f .y, f .z⟩

def constant (a : α) : PerAxis α := ⟨a, a, a⟩

def set (v : PerAxis α) (axis : Axis) (a : α) : PerAxis α :=
  match axis with
  | .x => { v with x := a }
  | .y => { v with y := a }
  | .z => { v with z := a }

def map (f : α → β) (v : PerAxis α) : PerAxis β := ⟨f v.x, f v.y, f v.z⟩

def toList (v : PerAxis α) : List α := [v.x, v.y, v.z]

@[simp] theorem get_tabulate (f : Axis → α) (a : Axis) : (tabulate f).get a = f a := by
  cases a <;> rfl

@[simp] theorem get_constant (value : α) (a : Axis) : (constant value).get a = value := by
  cases a <;> rfl

@[simp] theorem get_map (f : α → β) (v : PerAxis α) (a : Axis) : (v.map f).get a = f (v.get a) := by
  cases a <;> rfl

theorem get_set (v : PerAxis α) (a b : Axis) (value : α) :
    (v.set a value).get b = if b = a then value else v.get b := by
  cases a <;> cases b <;> rfl

end PerAxis

/-- An image of the machine's lines: bits 0 to 2 are the step lines of x, y and z, bits 3 to 5 their
direction lines. A direction line that is set means the negative sense. -/
structure Lines where
  bits : UInt8
  deriving DecidableEq, Repr, Inhabited

namespace Lines

def none : Lines := ⟨0⟩

def all : Lines := ⟨0b111111⟩

def stepMask : Lines := ⟨0b000111⟩

def directionMask : Lines := ⟨0b111000⟩

def step : Axis → Lines
  | .x => ⟨0b000001⟩
  | .y => ⟨0b000010⟩
  | .z => ⟨0b000100⟩

def direction : Axis → Lines
  | .x => ⟨0b001000⟩
  | .y => ⟨0b010000⟩
  | .z => ⟨0b100000⟩

instance : OrOp Lines := ⟨fun a b => ⟨a.bits ||| b.bits⟩⟩

instance : AndOp Lines := ⟨fun a b => ⟨a.bits &&& b.bits⟩⟩

instance : XorOp Lines := ⟨fun a b => ⟨a.bits ^^^ b.bits⟩⟩

instance : Complement Lines := ⟨fun a => ⟨~~~a.bits &&& all.bits⟩⟩

def contains (a b : Lines) : Bool := a &&& b == b

def isNone (a : Lines) : Bool := a == none

def stepLines (a : Lines) : Lines := a &&& stepMask

def directionLines (a : Lines) : Lines := a &&& directionMask

end Lines

end StepPulse
