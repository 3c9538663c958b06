import PulseProgram.Binary64

/-!
# Values of a TOML document

A table remembers how it came to be, since that decides what may be added to it
later: a table written with a header or in braces is complete as far as dotted
keys go, one that a longer header implies may still get its own header, and one
made by dotted keys may be extended by dotted keys only.

Keys keep the order in which they were defined.
-/

namespace PulseProgram.Toml

/-- How a table came to be. -/
inductive Origin where
  /-- The document itself, or a table with a header of its own. -/
  | header
  /-- A header names a table inside it. -/
  | implied
  /-- A dotted key leads through it. -/
  | dotted
  /-- It is written in braces. -/
  | inline
deriving DecidableEq

/-- A value. -/
inductive Value where
  | text (value : String)
  | integer (value : Int)
  | float (value : Binary64)
  | boolean (value : Bool)
  /-- A date, a time or both; what it denotes is of no use to the settings. -/
  | moment
  | array (elements : List Value)
  | table (origin : Origin) (entries : List (String × Value))
  /-- Tables written one by one under a doubled header. -/
  | tables (elements : List (List (String × Value)))

/-- The entries of a table in the order of their definition. -/
abbrev Entries := List (String × Value)

namespace Entries

/-- The value of a key. -/
def get? (entries : Entries) (key : String) : Option Value :=
  (entries.find? (·.1 = key)).map (·.2)

/-- Gives a key another value. -/
def replace (entries : Entries) (key : String) (value : Value) : Entries :=
  entries.map fun entry => if entry.1 = key then (key, value) else entry

/-- Changes the table that a path leads to. Tables that are missing on the way are
made with the given origin. The path goes through the last of several tables
under a doubled header; it never goes through another kind of value or a table in
braces, and dotted keys do not go through a table with a header. -/
def alter (made : Origin) (change : Origin → Entries → Option Entries) :
    List String → Origin → Entries → Option Entries
  | [], origin, entries => change origin entries
  | key :: path, _, entries =>
    match get? entries key with
    | none => do
      let inner ← alter made change path made []
      some (entries ++ [(key, .table made inner)])
    | some (.table origin inner) =>
      if origin = .inline ∨ made = .dotted ∧ origin = .header then none
      else do
        let inner ← alter made change path origin inner
        some (replace entries key (.table origin inner))
    | some (.tables elements) =>
      match elements.reverse with
      | [] => none
      | last :: earlier => do
        let inner ← alter made change path .header last
        some (replace entries key (.tables (inner :: earlier).reverse))
    | some _ => none

/-- Defines a key in a table reached by dotted keys. The key has to be new, and
the last table on the way has to be one that dotted keys made. -/
def define (path : List String) (key : String) (value : Value) (origin : Origin)
    (entries : Entries) : Option Entries :=
  alter .dotted
    (fun reached entries =>
      if decide (reached = .dotted) = path.isEmpty then none
      else if (get? entries key).isSome then none
      else some (entries ++ [(key, value)]))
    path origin entries

/-- Opens the table of a header: a new one, or one that was only implied. -/
def openTable (path : List String) (key : String) (entries : Entries) : Option Entries :=
  alter .implied
    (fun _ entries =>
      match get? entries key with
      | none => some (entries ++ [(key, .table .header [])])
      | some (.table .implied inner) => some (replace entries key (.table .header inner))
      | some _ => none)
    path .header entries

/-- Opens one more table of a doubled header. -/
def openElement (path : List String) (key : String) (entries : Entries) : Option Entries :=
  alter .implied
    (fun _ entries =>
      match get? entries key with
      | none => some (entries ++ [(key, .tables [[]])])
      | some (.tables elements) => some (replace entries key (.tables (elements ++ [[]])))
      | some _ => none)
    path .header entries

/-- Defines a key under a header. -/
def defineUnder (header path : List String) (key : String) (value : Value) (entries : Entries) :
    Option Entries :=
  alter .implied (define path key value) header .header entries

end Entries

end PulseProgram.Toml
