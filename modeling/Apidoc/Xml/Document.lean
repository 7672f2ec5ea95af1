import Apidoc.Xml.Prolog.Declaration
import Apidoc.Xml.Prolog.Subset
import Apidoc.Xml.Reader

/-!
Whole XML documents: what stands before the root element, the root, and what may follow it.
-/
namespace Apidoc.Xml

open Prolog (Survey scanToken)

/-- Takes in the XML declaration whose text after `<?xml` is `text`, with `after` behind it. -/
def takeDeclaration (survey : Survey) (text after : List Char) : Except Fault Survey :=
  match Prolog.readDeclaration text with
  | .ok standalone => .ok { survey.moveTo (.before false) with standalone }
  | .error rest => .error ⟨.malformedDeclaration, rest.length + 2 + after.length⟩

/-- Reads up to the root element: what has been declared, and the text from the root on. -/
def readProlog (survey : Survey) : List Char → Except Fault (Doctype × List Char)
  | [] => .error ⟨.noElement, 0⟩
  | c :: rest =>
    let left := rest.length + 1
    match scanToken c rest with
    | .error stop => .error (stop.fault left)
    | .ok (.root, _) =>
      match survey.place with
      | .before _ => .ok (survey.doctype, c :: rest)
      | .after => .ok (survey.doctype, c :: rest)
      | _ => .error ⟨.syntaxError, left⟩
    | .ok (token, after) => do
      let length := rest.length - after.length
      let survey ←
        if token = .aside true && survey.place = .before true then
          takeDeclaration survey ((rest.take (length - 2)).drop 4) after
        else survey.take token left
      readProlog survey (rest.drop length)
termination_by text => text.length
decreasing_by
  simp only [List.length_drop, List.length_cons]
  omega

/-- Checks the text after the root element, which may hold only white space and asides. -/
def checkEpilog : List Char → Except Fault PUnit
  | [] => .ok ()
  | c :: rest =>
    let left := rest.length + 1
    match scanToken c rest with
    | .error stop => .error (stop.fault left)
    | .ok (.blank, after) => checkEpilog (rest.drop (rest.length - after.length))
    | .ok (.aside false, after) => checkEpilog (rest.drop (rest.length - after.length))
    | .ok _ => .error ⟨.junkAfterRoot, left⟩
termination_by text => text.length
decreasing_by
  all_goals
    simp only [List.length_drop, List.length_cons]
    omega

def dropMark : List Char → List Char
  | '\uFEFF' :: rest => rest
  | text => text

def parseDocument (text : List Char) : Except Fault Element := do
  let (doctype, body) ← readProlog .initial (dropMark text)
  let (root, after) ← readRoot doctype .initial body
  checkEpilog after
  return root

end Apidoc.Xml
