/-!
# Settings files as values

A document is a table of named values, some of them tables again. How a table came about decides
what may still be added to it, so a table keeps that. Headers and dotted keys put values into a table
with `place?` and `assign?`, which refuse to define anything twice.
-/

namespace SpanQuery

inductive TableOrigin where
  | inline
  | stated
  | implied
  | dotted
  deriving Repr, DecidableEq

inductive Toml where
  | string (s : String)
  | integer (n : Int)
  | float (lexeme : List Char)
  | bool (b : Bool)
  | time (lexeme : List Char)
  | array (items : List Toml)
  | table (origin : TableOrigin) (fields : List (String × Toml))
  | tables (rows : List (List (String × Toml)))

namespace Toml

abbrev Fields := List (String × Toml)

def put (fields : Fields) (name : String) (value : Toml) : Fields :=
  match fields with
  | [] => [(name, value)]
  | (other, v) :: rest =>
      if other = name then (name, value) :: rest else (other, v) :: put rest name value

/-- Changes what stands under a path of header names; tables on the way that are not there yet are
implied. Of tables in a row the last one is meant. -/
def place? (change : Option Toml → Option Toml) : List String → Fields → Option Fields
  | [], _ => none
  | [name], fields => (change (fields.lookup name)).map (put fields name)
  | name :: path, fields =>
      match fields.lookup name with
      | none => (place? change path []).map fun inner => put fields name (.table .implied inner)
      | some (.table .inline _) => none
      | some (.table origin inner) =>
          (place? change path inner).map fun inner => put fields name (.table origin inner)
      | some (.tables rows) =>
          match rows.getLast? with
          | some last =>
              (place? change path last).map fun last => put fields name (.tables (rows.dropLast ++ [last]))
          | none => none
      | some _ => none

/-- Gives a new name a value. The names before the last one in a dotted key go through tables that
were not stated, the innermost of them made by such keys too. -/
def assign? (value : Toml) : List String → Fields → Option Fields
  | [], _ => none
  | [name], fields => if (fields.lookup name).isSome then none else some (fields ++ [(name, value)])
  | name :: path, fields =>
      match fields.lookup name with
      | none => (assign? value path []).map fun inner => put fields name (.table .dotted inner)
      | some (.table .dotted inner) =>
          (assign? value path inner).map fun inner => put fields name (.table .dotted inner)
      | some (.table .implied inner) =>
          if path.length ≤ 1 then none
          else (assign? value path inner).map fun inner => put fields name (.table .implied inner)
      | some (.tables rows) =>
          match rows.getLast? with
          | some last =>
              if path.length ≤ 1 then none
              else (assign? value path last).map fun last =>
                put fields name (.tables (rows.dropLast ++ [last]))
          | none => none
      | some _ => none

abbrev Entry := List String × Toml

def assignAll? (entries : List Entry) (fields : Fields) : Option Fields :=
  entries.foldlM (fun fields (path, value) => assign? value path fields) fields

structure Section where
  path : List String
  isRow : Bool
  entries : List Entry

def addSection? (fields : Fields) (s : Section) : Option Fields :=
  let change : Option Toml → Option Toml := fun old =>
    if s.isRow then
      match old with
      | none => (assignAll? s.entries []).map fun row => .tables [row]
      | some (.tables rows) => (assignAll? s.entries []).map fun row => .tables (rows ++ [row])
      | some _ => none
    else
      match old with
      | none => (assignAll? s.entries []).map (.table .stated)
      | some (.table .implied inner) => (assignAll? s.entries inner).map (.table .stated)
      | some _ => none
  place? change s.path fields

def document? (top : List Entry) (sections : List Section) : Option Fields := do
  sections.foldlM addSection? (← assignAll? top [])

end Toml

end SpanQuery
