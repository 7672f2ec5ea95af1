import Apidoc.Toml.Nest
import Apidoc.Toml.Number

/-!
Values in TOML: texts, numbers, dates, arrays, and tables written on one line.
-/
namespace Apidoc.Toml

def isCompound : Value → Bool
  | .list _ => true
  | .table _ => true
  | _ => false

def addInline (marks : Marks) (entries : Entries) (key : Key) (value : Value)
    (after : List Char) : Except Fault Entries :=
  if marks.has key .frozen then refuse (.immutable key) after
  else
    let name := key.getLast?.getD ""
    match changeAt false (addNew name value (.duplicateKey name)) key.dropLast entries with
    | .ok entries => .ok entries
    | .error reason => refuse reason after

def readKeyEquals (s : List Char) : Except Fault (Key × List Char) := do
  let (key, after) ← readKey s
  match after with
  | '=' :: rest => return (key, skipSpaces rest)
  | _ => refuse .missingEquals after

mutual

def readValue (s : List Char) : Except Fault (Value × List Char) :=
  match quotedText? s with
  | some text => text.map fun (text, after) => (.text (String.ofList text), after)
  | none =>
    if "true".toList.isPrefixOf s then .ok (.flag true, s.drop 4)
    else if "false".toList.isPrefixOf s then .ok (.flag false, s.drop 5)
    else
      match s with
      | '[' :: rest => do
        match endLike rest (← skipGaps rest) with
        | ']' :: after => return (.list [], after)
        | inner =>
          let (items, after) ← readItems (endLike rest inner)
          return (.list items, after)
      | '\x7b' :: rest =>
        match skipSpaces rest with
        | '\x7d' :: after => .ok (.table [], after)
        | inner => do
          let (entries, after) ← readEntries [] [] (endLike rest inner)
          return (.table entries, after)
      | _ => (scalar? s).getD (refuse .invalidValue s)
termination_by (s.length, 0)
decreasing_by
  all_goals
    apply Prod.Lex.left
    have := length_endLike_le rest inner
    simp only [List.length_cons]
    omega

def readItems (s : List Char) : Except Fault (List Value × List Char) := do
  let (value, after) ← readValue s
  match _front : endLike s (← skipGaps after) with
  | ']' :: after => return ([value], after)
  | ',' :: rest =>
    match endLike rest (← skipGaps rest) with
    | ']' :: after => return ([value], after)
    | next =>
      let (values, after) ← readItems (endLike rest next)
      return (value :: values, after)
  | after => refuse .unclosedArray after
termination_by (s.length, 1)
decreasing_by
  · exact Prod.Lex.right _ (by decide)
  · apply Prod.Lex.left
    rename_i gaps
    have first := length_endLike_le s gaps
    have second := length_endLike_le rest next
    rw [_front, List.length_cons] at first
    omega

def readEntries (marks : Marks) (entries : Entries) (s : List Char) :
    Except Fault (Entries × List Char) := do
  let (key, rest) ← readKeyEquals s
  let (value, after) ← readValue (endLike s rest)
  let entries ← addInline marks entries key value after
  match _front : skipSpaces (endLike s after) with
  | '\x7d' :: after => return (entries, after)
  | ',' :: rest =>
    let marks := if isCompound value then (key, .frozen, true) :: marks else marks
    readEntries marks entries (skipSpaces rest)
  | after => refuse .unclosedTable after
termination_by (s.length, 1)
decreasing_by
  · have := length_endLike_le s rest
    rcases Nat.lt_or_eq_of_le this with shorter | same
    · exact Prod.Lex.left _ _ shorter
    · rw [same]
      exact Prod.Lex.right _ (by decide)
  · apply Prod.Lex.left
    have first := length_skipSpaces_le (endLike s after)
    have second := length_endLike_le s after
    have third := length_skipSpaces_le rest
    rw [_front, List.length_cons] at first
    omega

end

end Apidoc.Toml
