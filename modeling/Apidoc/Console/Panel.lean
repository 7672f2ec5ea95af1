import Apidoc.Console.Wrap

/-!
Panels: text in a frame, with a title in its upper edge.
-/
namespace Apidoc.Console

def panelTitle (title : List Char) : List Char :=
  let line := title.map fun c => if c = '\n' then ' ' else c
  ' ' :: expandTabs line ++ [' ']

/-- The upper edge of a panel; one that is too narrow has no title. A title that fills the edge
loses the space after it if it has more characters than cells. -/
def panelTop (width : Nat) (title : List Char) : List Char :=
  if width ≤ 4 then '╭' :: List.replicate (width - 2) '─' ++ ['╮']
  else
    let label := truncate (width - 4) true (panelTitle title)
    let edge := cropEnd (width - 4) (centred (width - 4) '─' label)
    '╭' :: '─' :: truncate (width - 4) true edge ++ ['─', '╮']

/-- The lines inside a panel; one that is too narrow for text has none. -/
def panelBody (width : Nat) (body : List Char) : List (List Char) :=
  if width ≤ 4 then []
  else
    (wrap (width - 4) true body).map fun line =>
      '│' :: ' ' :: padded (width - 4) line ++ [' ', '│']

def panel (width : Nat) (title body : List Char) : List (List Char) :=
  ([panelTop width title] ++ panelBody width body
    ++ ['╰' :: List.replicate (width - 2) '─' ++ ['╯']]).map fun line =>
      if width < 2 then line.take width else line

end Apidoc.Console
