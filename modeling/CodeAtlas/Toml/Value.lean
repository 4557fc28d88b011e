import CodeAtlas.Text.Lines

/-!
Values of configuration files. A table knows how it came about, because that decides whether later
lines may still add to it.
-/
namespace CodeAtlas

inductive TableOrigin where
  /-- Named on the way to another table. -/
  | implied
  /-- Has a header of its own, or is the root. -/
  | stated
  /-- Made by a key with dots. -/
  | dotted
  /-- Written in braces. -/
  | braced
  deriving DecidableEq, Repr

inductive Toml where
  | string (s : String)
  | integer (n : Int)
  | float (text : String)
  | bool (b : Bool)
  | moment (text : String)
  | array (elements : List Toml)
  | tables (elements : List Toml)
  | table (origin : TableOrigin) (entries : List (String × Toml))
  deriving Repr

namespace Toml

abbrev Entries := List (String × Toml)

def find? (key : String) (entries : Entries) : Option Toml :=
  (entries.find? fun entry => entry.1 == key).map Prod.snd

def replace (key : String) (value : Toml) (entries : Entries) : Entries :=
  entries.map fun entry => if entry.1 = key then (key, value) else entry

def emptyRoot : Toml := .table .stated []

/-- Changes the table a path leads to. Tables that are missing are made; of an array of tables the last
one is meant. Tables in braces are closed, and dots do not lead into a table with a header. -/
def descend (byDots : Bool) (change : Toml → Option Toml) : List String → Toml → Option Toml
  | [], t => change t
  | key :: path, .table origin entries =>
    match find? key entries with
    | none =>
      (descend byDots change path (.table (if byDots then .dotted else .implied) [])).map fun made =>
        .table origin (entries ++ [(key, made)])
    | some (.table inner below) =>
      if inner = .braced ∨ (byDots ∧ inner = .stated) then none
      else
        (descend byDots change path (.table inner below)).map fun changed =>
          .table origin (replace key changed entries)
    | some (.tables elements) =>
      match elements.getLast? with
      | none => none
      | some last =>
        (descend byDots change path last).map fun changed =>
          .table origin (replace key (.tables (elements.dropLast ++ [changed])) entries)
    | some _ => none
  | _ :: _, _ => none

/-- Adds an entry. Keys with dots add to tables that dots made, other keys to no such table. -/
def addEntry (byDots : Bool) (key : String) (value : Toml) : Toml → Option Toml
  | .table origin entries =>
    if (origin == .dotted) != byDots || (find? key entries).isSome then none
    else some (.table origin (entries ++ [(key, value)]))
  | _ => none

def insert (path : List String) (key : String) (value : Toml) : Toml → Option Toml :=
  descend true (addEntry (!path.isEmpty) key value) path

/-- Begins the table of a header, which may only have been implied before. -/
def stateTable (key : String) : Toml → Option Toml
  | .table origin entries =>
    match find? key entries with
    | none => some (.table origin (entries ++ [(key, .table .stated [])]))
    | some (.table .implied below) => some (.table origin (replace key (.table .stated below) entries))
    | some _ => none
  | _ => none

def stateElement (key : String) : Toml → Option Toml
  | .table origin entries =>
    match find? key entries with
    | none => some (.table origin (entries ++ [(key, .tables [.table .stated []])]))
    | some (.tables elements) =>
      some (.table origin (replace key (.tables (elements ++ [.table .stated []])) entries))
    | some _ => none
  | _ => none

end Toml
end CodeAtlas
