/-
  Meterbank.Toml.Value — configuration values and how tables grow.

  A table can be opened by a header, be implied by the header of a table
  below it, arise from a key with dots, or be written out in one place.
  What may still be added to it depends on that:

      header  — its header is used up; dotted keys from outside may not
                reach into it
      implied — a header may still open it, once
      dotted  — only further dotted keys of the same place
      inline  — nothing
-/

namespace Meterbank.Toml

/-! ## Values -/

/-- How a table came to be. -/
inductive Origin where
  | header
  | implied
  | dotted
  | inline
  deriving DecidableEq, Repr

/-- A value of a configuration.  Of floats and dates only their being
such is kept, as no setting is one. -/
inductive Value where
  | text (s : String)
  | integer (n : Int64)
  | boolean (b : Bool)
  | float
  | moment
  /-- A list; `open_` if headers can add tables to its end. -/
  | list (open_ : Bool) (elements : List Value)
  | table (origin : Origin) (entries : List (String × Value))

/-- The content of a table, in the order in which names first came up. -/
abbrev Entries := List (String × Value)

/-! ## Entries -/

namespace Entries

/-- The value of a name. -/
def find? (es : Entries) (key : String) : Option Value := es.lookup key

/-- Gives a name a value, in its place or at the end. -/
def put (es : Entries) (key : String) (v : Value) : Entries :=
  match es with
  | [] => [(key, v)]
  | (k, old) :: r => if k = key then (k, v) :: r else (k, old) :: put r key v

end Entries

/-! ## Growing tables -/

/-- Changes the table at the end of a path.  Names on the way that are
not there become tables; `dotted` says whether the path is part of a key
or of a header. -/
def updateAt (dotted : Bool) (change : Origin → Entries → Option Entries) :
    List String → Origin → Entries → Option Entries
  | [], origin, es => change origin es
  | key :: path, _, es =>
    let made : Origin := if dotted then .dotted else .implied
    match es.find? key with
    | none => (updateAt dotted change path made []).map fun inner => es.put key (.table made inner)
    | some (.table origin inner) =>
      if origin = .inline ∨ (dotted = true ∧ origin = .header) then none
      else (updateAt dotted change path origin inner).map fun inner => es.put key (.table origin inner)
    | some (.list true elements) =>
      match elements.getLast? with
      | some (.table origin inner) =>
        (updateAt dotted change path origin inner).map fun inner =>
          es.put key (.list true (elements.dropLast ++ [.table origin inner]))
      | _ => none
    | some _ => none

/-- Adds a name that must be new to the table that a key's dots lead to. -/
def addKey (path : List String) (key : String) (v : Value) (origin : Origin) (es : Entries) :
    Option Entries :=
  updateAt true
    (fun reached es =>
      if path.isEmpty = false ∧ reached ≠ .dotted then none
      else
        match es.find? key with
        | none => some (es.put key v)
        | some _ => none)
    path origin es

/-- Opens the table of a header. -/
def openTable (path : List String) (key : String) (es : Entries) : Option Entries :=
  updateAt false
    (fun _ es =>
      match es.find? key with
      | none => some (es.put key (.table .header []))
      | some (.table .implied inner) => some (es.put key (.table .header inner))
      | some _ => none)
    path .header es

/-- Opens one more table of a list of tables. -/
def openElement (path : List String) (key : String) (es : Entries) : Option Entries :=
  updateAt false
    (fun _ es =>
      match es.find? key with
      | none => some (es.put key (.list true [.table .header []]))
      | some (.list true elements) =>
        some (es.put key (.list true (elements ++ [.table .header []])))
      | some _ => none)
    path .header es

/-- Adds a key with its value to the table of the current header. -/
def addSetting (header path : List String) (key : String) (v : Value) (es : Entries) :
    Option Entries :=
  updateAt false (fun origin es => addKey path key v origin es) header .header es

end Meterbank.Toml
