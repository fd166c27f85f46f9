import StepPulse.Toml.Item

/-! Lines add a value to the open table, headers open another one. -/

namespace StepPulse.Toml

structure Draft where
  root : Entries := []
  table : Entries := []
  /-- Where the open table belongs; none for the root itself. -/
  place : Option (List String × String) := none
  shared : Bool := false

namespace Draft

def finish (d : Draft) : Option Entries :=
  match d.place with
  | none => some d.table
  | some (path, key) => do
    let edit (_ : Origin) (es : Entries) : Option (Unit × Entries) :=
      if d.shared then
        match es.lookup key with
        | some (.tables items) => some ((), es.replace key (.tables (items ++ [d.table])))
        | _ => none
      else (es.insert? key (.table .header d.table)).map ((), ·)
    let (_, root) ← Entries.editAt .implied edit path .header d.root
    some root

/-- Open the table of a header. One that headers below it have implied is taken up with what it
holds; any other must be new. -/
def openTable (d : Draft) (path : List String) (key : String) : Option Draft := do
  let root ← d.finish
  let edit (_ : Origin) (es : Entries) : Option (Entries × Entries) :=
    match es.lookup key with
    | none => some ([], es)
    | some (.table .implied held) => some (held, es.erase key)
    | some _ => none
  let (held, root) ← Entries.editAt .implied edit path .header root
  some { root := root, table := held, place := some (path, key) }

def openShared (d : Draft) (path : List String) (key : String) : Option Draft := do
  let root ← d.finish
  let edit (_ : Origin) (es : Entries) : Option (Unit × Entries) :=
    match es.lookup key with
    | none => some ((), es ++ [(key, .tables [])])
    | some (.tables _) => some ((), es)
    | some _ => none
  let (_, root) ← Entries.editAt .implied edit path .header root
  some { root := root, place := some (path, key), shared := true }

def line (d : Draft) : Scan Draft
  | '[' :: '[' :: rest => do
    let ((path, key), rest) ← Key.scan rest
    match rest with
    | ']' :: ']' :: rest => some (← d.openShared path key, ← Scan.lineEnd? rest)
    | _ => none
  | '[' :: rest => do
    let ((path, key), rest) ← Key.scan rest
    match rest with
    | ']' :: rest => some (← d.openTable path key, ← Scan.lineEnd? rest)
    | _ => none
  | cs => do
    let (((path, key), v), rest) ← Item.pair (Item.value nestingLimit) cs
    some ({ d with table := ← d.table.insertAt? path key v }, ← Scan.lineEnd? rest)

def lines : Nat → Draft → List Char → Option Draft
  | 0, _, _ => none
  | fuel + 1, d, cs =>
    match Scan.lineEnd? cs with
    | some [] => some d
    | some rest => lines fuel d rest
    | none => do
      let (d, rest) ← d.line (Scan.skipBlanks cs)
      lines fuel d rest

end Draft

def parse? (text : String) : Option Entries := do
  let cs := text.toList
  let cs := if cs.head? = some '\uFEFF' then cs.drop 1 else cs
  let d ← Draft.lines cs.length.succ {} cs
  d.finish

end StepPulse.Toml
