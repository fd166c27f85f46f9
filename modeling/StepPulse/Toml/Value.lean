/-! Values of a TOML document. Each table remembers how it came to be. -/

namespace StepPulse.Toml

inductive Origin where
  | inline
  | header
  | implied
  | dotted
  deriving DecidableEq, Repr

inductive Value where
  | text (content : String)
  | integer (value : Int)
  | float (value : Float)
  | boolean (value : Bool)
  | moment
  | array (items : List Value)
  | tables (items : List (List (String × Value)))
  | table (origin : Origin) (entries : List (String × Value))

abbrev Entries := List (String × Value)

namespace Entries

def replace (entries : Entries) (key : String) (value : Value) : Entries :=
  entries.map fun entry => if entry.1 == key then (key, value) else entry

def erase (entries : Entries) (key : String) : Entries :=
  entries.filter fun entry => entry.1 != key

def insert? (entries : Entries) (key : String) (value : Value) : Option Entries :=
  match entries.lookup key with
  | none => some (entries ++ [(key, value)])
  | some _ => none

/-- Edit the table at the end of a path. Missing tables on the way are made, with origin `made`. An
array of tables stands for its last one. Complete values cannot be entered, nor can a dotted key
enter a table that has its own header. -/
def editAt {α : Type} (made : Origin) (edit : Origin → Entries → Option (α × Entries)) :
    List String → Origin → Entries → Option (α × Entries)
  | [], origin, entries => edit origin entries
  | key :: path, _, entries =>
    match entries.lookup key with
    | none => do
      let (a, sub) ← editAt made edit path made []
      some (a, entries ++ [(key, .table made sub)])
    | some (.table origin sub) =>
      if origin = .inline ∨ made = .dotted ∧ origin = .header then none
      else do
        let (a, sub) ← editAt made edit path origin sub
        some (a, entries.replace key (.table origin sub))
    | some (.tables items) => do
      let last ← items.getLast?
      let (a, last) ← editAt made edit path .header last
      some (a, entries.replace key (.tables (items.dropLast ++ [last])))
    | some _ => none

/-- Add a value under a dotted key. A key of several parts adds only to tables that dotted keys
made. -/
def insertAt? (entries : Entries) (path : List String) (key : String) (value : Value) :
    Option Entries := do
  let edit (origin : Origin) (entries : Entries) : Option (Unit × Entries) := do
    if path ≠ [] ∧ origin ≠ .dotted then none
    else some ((), ← entries.insert? key value)
  let (_, entries) ← editAt .dotted edit path .header entries
  some entries

end Entries

end StepPulse.Toml
