import Apidoc.Calendar
import Apidoc.Decimal.Style
import Apidoc.Text.Integer

/-!
The values that a setting can be given, of whatever type, and the two ways in which they are
written in messages: `shown` for a value that stands alone, `quoted` for one inside another.
-/
namespace Apidoc

inductive Value where
  | none
  | flag (b : Bool)
  | integer (n : Int)
  | real (x : Float)
  | text (s : String)
  | list (items : List Value)
  | table (entries : List (String × Value))
  | date (d : Date)
  | clock (t : Clock)
  | moment (m : Moment)

namespace Value

def typeName : Value → String
  | none => "NoneType"
  | flag _ => "bool"
  | integer _ => "int"
  | real _ => "float"
  | text _ => "str"
  | list _ => "list"
  | table _ => "dict"
  | date _ => "date"
  | clock _ => "time"
  | moment _ => "datetime"

/-- Floating-point numbers are written with a point from `0.0001` up to sixteen digits before it,
and otherwise with an exponent of at least two digits; whole ones end in `.0`. -/
def realStyle : Decimal.Style := ⟨-4, 15, ".0", 2, "nan", "inf"⟩

def call (name : String) (arguments : List String) : String :=
  name ++ "(" ++ ", ".intercalate arguments ++ ")"

mutual

def quoted : Value → String
  | none => "None"
  | flag b => if b then "True" else "False"
  | integer n => toString n
  | real x => realStyle.write x
  | text s => Text.quoted s
  | list items => "[" ++ ", ".intercalate (quotedItems items) ++ "]"
  | table entries => "\x7b" ++ ", ".intercalate (quotedEntries entries) ++ "\x7d"
  | date d => call "datetime.date" d.parts
  | clock t => call "datetime.time" t.parts
  | moment m => call "datetime.datetime" m.parts

def quotedItems : List Value → List String
  | [] => []
  | v :: rest => v.quoted :: quotedItems rest

def quotedEntries : List (String × Value) → List String
  | [] => []
  | (k, v) :: rest => s!"{Text.quoted k}: {v.quoted}" :: quotedEntries rest

end

/-- How a value is written that stands alone: texts and times are bare. -/
def shown : Value → String
  | text s => s
  | date d => d.shown
  | clock t => t.shown
  | moment m => m.shown
  | v => v.quoted

mutual

/-- Whether a value can be written: no whole number in it has too many digits. -/
def isTellable : Value → Bool
  | integer n => Text.isTellable n
  | list items => areTellable items
  | table entries => entriesTellable entries
  | _ => true

def areTellable : List Value → Bool
  | [] => true
  | v :: rest => v.isTellable && areTellable rest

def entriesTellable : List (String × Value) → Bool
  | [] => true
  | (_, v) :: rest => v.isTellable && entriesTellable rest

end

/-- Whether a value counts as given: nothing, no, zero and the empty ones do not. -/
def isGiven : Value → Bool
  | none => false
  | flag b => b
  | integer n => n ≠ 0
  | real x => x != 0
  | text s => !s.isEmpty
  | list items => !items.isEmpty
  | table entries => !entries.isEmpty
  | _ => true

end Value

end Apidoc
