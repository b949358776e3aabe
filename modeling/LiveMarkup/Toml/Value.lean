/-! # TOML values

A table remembers how it came about, since that decides how it may be extended later.
-/
namespace LiveMarkup

inductive TableOrigin where
  | header
  | passedThrough
  | dotted
  | inline
deriving DecidableEq, Repr

/-- A TOML value. Numbers that are not integers keep only whether they are finite, dates and times only
their normal form. -/
inductive Toml where
  | str (text : String)
  | int (value : Int)
  | float (overflows : Bool)
  | bool (value : Bool)
  | datetime (text : String)
  | array (items : List Toml)
  | tables (items : List Toml)
  | table (origin : TableOrigin) (entries : List (String × Toml))

namespace Toml

def find? (entries : List (String × Toml)) (key : String) : Option Toml :=
  (entries.find? fun e => e.1 = key).map (·.2)

/-- Puts an entry in place of the one with the same key, or at the end. -/
def put (key : String) (value : Toml) : List (String × Toml) → List (String × Toml)
  | [] => [(key, value)]
  | (k, v) :: rest => if k = key then (key, value) :: rest else (k, v) :: put key value rest

/-- Changes the table at the end of a path, whose steps lead through tables and the last tables of
arrays. A step that does not exist yet makes a table of the given origin. Inline tables may not be
entered, and a dotted key may not enter a table that has a header. -/
def descend (origin : TableOrigin)
    (change : TableOrigin → List (String × Toml) → Option (List (String × Toml)))
    (at_ : TableOrigin) (entries : List (String × Toml)) :
    List String → Option (List (String × Toml))
  | [] => change at_ entries
  | key :: path =>
    match find? entries key with
    | none => do
      let inner ← descend origin change origin [] path
      some (put key (.table origin inner) entries)
    | some (.table o inner) =>
      if o = .inline ∨ (origin = .dotted ∧ o = .header) then none
      else do
        let inner ← descend origin change o inner path
        some (put key (.table o inner) entries)
    | some (.tables items) =>
      match items.getLast? with
      | some (.table o inner) => do
        let inner ← descend origin change o inner path
        some (put key (.tables (items.dropLast ++ [.table o inner])) entries)
      | _ => none
    | some _ => none

/-- Adds a key to a table. A key given twice is refused, and so is a dotted key that would add to a
table made by headers. -/
def addKey (dotted : Bool) (key : String) (value : Toml) (origin : TableOrigin)
    (entries : List (String × Toml)) : Option (List (String × Toml)) :=
  if dotted ∧ origin ≠ .dotted then none
  else match find? entries key with
    | some _ => none
    | none => some (entries ++ [(key, value)])

def addDotted (path : List String) (value : Toml) (origin : TableOrigin)
    (entries : List (String × Toml)) : Option (List (String × Toml)) :=
  match path.getLast? with
  | none => none
  | some key =>
    let way := path.dropLast
    descend .dotted (addKey (!way.isEmpty) key value) origin entries way

/-- Opens a table by its header: a new one, or one that headers have passed through. -/
def openTable (key : String) (_ : TableOrigin) (entries : List (String × Toml)) :
    Option (List (String × Toml)) :=
  match find? entries key with
  | none => some (entries ++ [(key, .table .header [])])
  | some (.table .passedThrough inner) => some (put key (.table .header inner) entries)
  | some _ => none

def appendTable (key : String) (_ : TableOrigin) (entries : List (String × Toml)) :
    Option (List (String × Toml)) :=
  match find? entries key with
  | none => some (entries ++ [(key, .tables [.table .header []])])
  | some (.tables items) => some (put key (.tables (items ++ [.table .header []])) entries)
  | some _ => none

mutual

/-- Whether every number of a value can be represented: integers in 128 bits, floats as doubles. -/
def representable : Toml → Bool
  | int v => -(Nat.pow 2 127 : Nat) ≤ v && v < (Nat.pow 2 128 : Nat)
  | float overflows => !overflows
  | array items | tables items => allRepresentable items
  | table _ entries => entriesRepresentable entries
  | _ => true

def allRepresentable : List Toml → Bool
  | [] => true
  | item :: rest => representable item && allRepresentable rest

def entriesRepresentable : List (String × Toml) → Bool
  | [] => true
  | (_, value) :: rest => representable value && entriesRepresentable rest

end

end Toml
end LiveMarkup
