import Apidoc.Text.Blank

/-!
Paths of files. Empty steps and steps that stay where they are do not count; steps up are kept,
because what is above a step depends on what the step is.
-/
namespace Apidoc

/-- A path: its root, which is empty unless the path is absolute, and its steps. -/
structure Path where
  root : String
  steps : List String
  deriving DecidableEq, Repr

namespace Path

/-- The root that a text begins with: exactly two slashes are a root of their own. -/
def rootOf : List Char → String
  | '/' :: '/' :: '/' :: _ => "/"
  | '/' :: '/' :: _ => "//"
  | '/' :: _ => "/"
  | _ => ""

def ofString (s : String) : Path :=
  let steps := (Text.piecesBetween (· == '/') s.toList).map String.ofList
  ⟨rootOf s.toList, steps.filter (· ≠ ".")⟩

/-- The text of a path; a path without steps is the place where one is. -/
def shown (p : Path) : String :=
  if p.root.isEmpty && p.steps.isEmpty then "." else p.root ++ "/".intercalate p.steps

def name (p : Path) : String :=
  p.steps.getLast?.getD ""

def hasNull (p : Path) : Bool :=
  p.steps.any fun step => step.toList.contains '\x00'

def under (p : Path) (step : String) : Path :=
  { p with steps := p.steps ++ [step] }

/-- Steps in which each step up takes away the one before it; at the start it takes away
nothing. -/
def resolved (taken : List String) : List String → List String
  | [] => taken.reverse
  | step :: rest =>
    if step = ".." then resolved taken.tail rest else resolved (step :: taken) rest

def absolute (directory path : Path) : Path :=
  if path.root.isEmpty then ⟨directory.root, resolved [] (directory.steps ++ path.steps)⟩
  else ⟨path.root, resolved [] path.steps⟩

end Path

end Apidoc
