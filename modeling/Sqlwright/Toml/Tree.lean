/-!
# TOML trees

A document is a table of named values. A table remembers how it came about, because that
decides who may add to it: a table that a longer header has implied may still get a header
of its own, a table made by a dotted key takes more dotted keys, and a table with a header
or between braces is closed to both.
-/

namespace Sqlwright.Toml

/-- How a table came about. -/
inductive Origin where
  /-- By the header of a table inside it. -/
  | implied
  /-- By a dotted key. -/
  | dotted
  /-- By its own header; the document itself is such a table. -/
  | header
  /-- Between braces. -/
  | inline
deriving DecidableEq, Repr

/-- A value of a document. -/
inductive Value where
  | text (s : String)
  | boolean (b : Bool)
  | integer (n : Int)
  /-- A number with a fraction or an exponent, an infinity, or none. -/
  | real (literal : String)
  /-- A date, a time of day, or both. -/
  | moment (literal : String)
  | array (items : List Value)
  /-- The tables of a repeated header, in order. -/
  | tables (items : List Value)
  | table (origin : Origin) (entries : List (String × Value))
deriving Repr

namespace Value

/-- The entries of a table; none of any other value. -/
def entries : Value → List (String × Value)
  | .table _ entries => entries
  | _ => []

end Value

/-- Named values in the order of the document. -/
abbrev Entries := List (String × Value)

namespace Entries

/-- The value with a name. -/
def get? (entries : Entries) (name : String) : Option Value :=
  (entries.find? (·.1 == name)).map Prod.snd

/-- Give a name a value, in its old place if it has one. -/
def set (entries : Entries) (name : String) (value : Value) : Entries :=
  match entries with
  | [] => [(name, value)]
  | (other, old) :: rest =>
    if other = name then (name, value) :: rest else (other, old) :: set rest name value

/-- Change the entries of the table that a name leads to, if a path may go through it. A
name that is not there yet leads to a new table. Of repeated tables the last is meant. A
dotted key may not go through a table that is closed to it. -/
def through (dotted : Bool) (change : Origin → Entries → Option Entries) (name : String)
    (entries : Entries) : Option Entries :=
  match entries.get? name with
  | none =>
    let origin := if dotted then Origin.dotted else Origin.implied
    (change origin []).map fun inner => entries.set name (.table origin inner)
  | some (.table origin inner) =>
    let closed := origin == .inline || (dotted && origin == .header)
    if closed then none
    else (change origin inner).map fun inner => entries.set name (.table origin inner)
  | some (.tables items) =>
    match items.getLast? with
    | some (.table origin inner) =>
      (change origin inner).map fun inner =>
        entries.set name (.tables (items.dropLast ++ [.table origin inner]))
    | _ => none
  | some _ => none

/-- Change the entries of the table at the end of a path. -/
def along (dotted : Bool) (path : List String) (change : Origin → Entries → Option Entries)
    (origin : Origin) (entries : Entries) : Option Entries :=
  match path with
  | [] => change origin entries
  | name :: rest => through dotted (along dotted rest change) name entries

/-- Add a value under a dotted key. A key with several names ends in a table that dotted
keys have made, a single name in any other table; and it must be new there. -/
def insertAt (path : List String) (name : String) (value : Value) (origin : Origin)
    (entries : Entries) : Option Entries :=
  entries.along true path (fun origin inner =>
    if (origin == .dotted) == path.isEmpty then none
    else if (inner.get? name).isSome then none
    else some (inner.set name value)) origin

/-- Open a table by its header. Only a table that was implied until now may exist. -/
def openTable (path : List String) (name : String) (entries : Entries) : Option Entries :=
  entries.along false path (fun _ inner =>
    match inner.get? name with
    | none => some (inner.set name (.table .header []))
    | some (.table .implied old) => some (inner.set name (.table .header old))
    | some _ => none) .header

/-- Open another table under a repeated header. -/
def openRepeated (path : List String) (name : String) (entries : Entries) : Option Entries :=
  entries.along false path (fun _ inner =>
    match inner.get? name with
    | none => some (inner.set name (.tables [.table .header []]))
    | some (.tables items) => some (inner.set name (.tables (items ++ [.table .header []])))
    | some _ => none) .header

/-- A value just given is found. -/
theorem get?_set (entries : Entries) (name : String) (value : Value) :
    (entries.set name value).get? name = some value := by
  induction entries with
  | nil => simp [set, get?]
  | cons entry rest inductionHypothesis =>
    by_cases same : entry.1 = name
    · simp [set, get?, same]
    · simpa [set, get?, same] using inductionHypothesis

end Entries
end Sqlwright.Toml
