import Apidoc.Ordered
import Apidoc.Toml.Fault
import Apidoc.Value

/-!
Tables inside tables, reached by dotted keys, and the marks that say which of them may still be
opened or changed.
-/
namespace Apidoc.Toml

abbrev Entries := Ordered String Value

/-- Changes the table that a key leads to; tables on the way that are not there are made. With
`throughArrays`, an array on the way stands for its last table. -/
def changeAt (throughArrays : Bool) (change : Entries → Except Reason Entries) :
    Key → Entries → Except Reason Entries
  | [], entries => change entries
  | part :: rest, entries =>
    match entries.find? part with
    | none => do
      let inner ← changeAt throughArrays change rest []
      return entries.insert part (.table inner)
    | some (.table inner) => do
      let inner ← changeAt throughArrays change rest inner
      return entries.insert part (.table inner)
    | some (.list items) =>
      match throughArrays, items.getLast? with
      | true, some (.table inner) => do
        let inner ← changeAt throughArrays change rest inner
        return entries.insert part (.list (items.dropLast ++ [.table inner]))
      | _, _ => .error .overwritten
    | some _ => .error .overwritten

def addNew (name : String) (value : Value) (taken : Reason) (entries : Entries) :
    Except Reason Entries :=
  if entries.has name then .error taken else .ok (entries.insert name value)

def addTable (name : String) (entries : Entries) : Except Reason Entries :=
  match entries.find? name with
  | none => .ok (entries.insert name (.list [.table []]))
  | some (.list items) => .ok (entries.insert name (.list (items ++ [.table []])))
  | some _ => .error .overwritten

/-- What a table is marked for: frozen ones were written as values, and nothing in them changes;
declared ones are not declared again. -/
inductive Mark where
  | frozen
  | declared
  deriving DecidableEq

abbrev Marks := List (Key × Mark × Bool)

namespace Marks

def has (marks : Marks) (key : Key) (mark : Mark) : Bool :=
  marks.any fun (k, m, deep) => m = mark && (k == key || (deep && k.isPrefixOf key))

def clear (marks : Marks) (key : Key) : Marks :=
  marks.filter fun (k, _, _) => !key.isPrefixOf k

end Marks

end Apidoc.Toml
