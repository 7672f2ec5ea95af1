import Apidoc.Toml.Reader

/-!
TOML documents: statements on lines of their own, each of which gives a key a value or opens a
table.
-/
namespace Apidoc.Toml

structure Draft where
  entries : Entries := []
  marks : Marks := []
  pending : Marks := []
  table : Key := []

namespace Draft

def assign (d : Draft) (key : Key) (value : Value) (after : List Char) : Except Fault Draft :=
  let name := key.getLast?.getD ""
  let parent := d.table ++ key.dropLast
  let path := ((List.range key.length).drop 1).map fun n => d.table ++ key.take n
  match path.find? (d.marks.has · .declared) with
  | some opened => refuse (.redefined opened) after
  | none =>
    if d.marks.has parent .frozen then refuse (.immutable parent) after
    else
      match changeAt true (addNew name value .overwritten) parent d.entries with
      | .error reason => refuse reason after
      | .ok entries =>
        let frozen := if isCompound value then [(d.table ++ key, Mark.frozen, true)] else []
        .ok { d with
          entries
          marks := frozen ++ d.marks
          pending := path.map (fun k => (k, .declared, false)) ++ d.pending }

def settle (d : Draft) : Draft :=
  { d with marks := d.pending ++ d.marks, pending := [] }

def openTable (d : Draft) (key : Key) (after : List Char) : Except Fault Draft :=
  if d.marks.has key .declared || d.marks.has key .frozen then refuse (.declaredTwice key) after
  else
    match changeAt true .ok key d.entries with
    | .error reason => refuse reason after
    | .ok entries =>
      .ok { d with entries, marks := (key, .declared, false) :: d.marks, table := key }

def openInArray (d : Draft) (key : Key) (after : List Char) : Except Fault Draft :=
  if d.marks.has key .frozen then refuse (.immutable key) after
  else
    match changeAt true (addTable (key.getLast?.getD "")) key.dropLast d.entries with
    | .error reason => refuse reason after
    | .ok entries =>
      .ok { d with
        entries
        marks := (key, .declared, false) :: d.marks.clear key
        table := key }

end Draft

def readDeclaration (d : Draft) : List Char → Except Fault (Draft × List Char)
  | '[' :: rest => do
    let (key, after) ← readKey (skipSpaces rest)
    let d ← d.settle.openInArray key after
    match after with
    | ']' :: ']' :: rest => return (d, rest)
    | _ => refuse .missingBrackets after
  | s => do
    let (key, after) ← readKey (skipSpaces s)
    let d ← d.settle.openTable key after
    match after with
    | ']' :: rest => return (d, rest)
    | _ => refuse .missingBracket after

def readStatement (d : Draft) (s : List Char) : Except Fault (Draft × List Char) :=
  match s with
  | [] => .ok (d, [])
  | c :: rest =>
    if c == '\n' || c == '#' then .ok (d, s)
    else if startsKey c then do
      let (key, after) ← readKeyEquals s
      let (value, after) ← readValue after
      let d ← d.assign key value after
      return (d, skipSpaces after)
    else if c == '[' then do
      let (d, after) ← readDeclaration d rest
      return (d, skipSpaces after)
    else refuse .invalidStatement s

def readStatements (d : Draft) (s : List Char) : Except Fault Draft := do
  let (d, after) ← readStatement d (skipSpaces s)
  let after ← skipComment after
  match _front : endLike s after with
  | [] => return d
  | '\n' :: rest => readStatements d rest
  | _ => refuse .trailingText after
termination_by s.length
decreasing_by
  have := length_endLike_le s after
  rw [_front, List.length_cons] at this
  omega

def joinLineEnds : List Char → List Char
  | '\r' :: '\n' :: rest => '\n' :: joinLineEnds rest
  | c :: rest => c :: joinLineEnds rest
  | [] => []

inductive Refusal where
  | invalid (message : String)
  | longInteger (digits : Nat)
  deriving DecidableEq, Repr

def parse (text : List Char) : Except Refusal Entries :=
  let text := joinLineEnds text
  match readStatements {} text with
  | .ok d => .ok d.entries
  | .error (.invalid reason left) => .error (.invalid (reason.messageAt left text))
  | .error (.longInteger digits) => .error (.longInteger digits)

end Apidoc.Toml
