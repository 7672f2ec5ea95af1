import Apidoc.Text.Integer
import Apidoc.Toml.Fault

/-!
The small parts of TOML: blanks, comments, texts in quotation marks, and keys. Each reader gives
what it has read and the text that is left.
-/
namespace Apidoc.Toml

def refuse {α : Type} (reason : Reason) (rest : List Char) : Except Fault α :=
  .error (.invalid reason rest.length)

/-- The end of `s` that is as long as `t`; when `t` is what is left of `s`, it is `t`. -/
def endLike (s t : List Char) : List Char :=
  s.drop (s.length - t.length)

theorem length_endLike_le (s t : List Char) : (endLike s t).length ≤ s.length := by
  simp only [endLike, List.length_drop]
  omega

def isSpace (c : Char) : Bool :=
  c == ' ' || c == '\t'

def skipSpaces (s : List Char) : List Char :=
  s.dropWhile isSpace

theorem length_skipSpaces_le (s : List Char) : (skipSpaces s).length ≤ s.length :=
  (List.dropWhile_sublist isSpace).length_le

def isForbidden (c : Char) : Bool :=
  (c.toNat < 32 && c ≠ '\t') || c.toNat = 127

def isForbiddenInLines (c : Char) : Bool :=
  isForbidden c && c ≠ '\n'

def checkStretch (forbidden : Char → Bool) (stretch rest : List Char) : Except Fault PUnit :=
  match stretch.dropWhile (!forbidden ·) with
  | [] => .ok ()
  | c :: more => .error (.invalid (.invalidChar c) (more.length + 1 + rest.length))

/-- What is left after a comment, if one stands here: the end of its line. -/
def skipComment : List Char → Except Fault (List Char)
  | '#' :: rest => do
    let stretch := rest.takeWhile (· ≠ '\n')
    let after := rest.dropWhile (· ≠ '\n')
    checkStretch isForbidden stretch after
    return after
  | s => .ok s

def isGap (c : Char) : Bool :=
  isSpace c || c == '\n'

def skipGaps (s : List Char) : Except Fault (List Char) :=
  match _front : s.dropWhile isGap with
  | '#' :: rest => do
    let after ← skipComment ('#' :: rest)
    skipGaps (endLike rest after)
  | s' => .ok s'
termination_by s.length
decreasing_by
  have shorter := (List.dropWhile_sublist isGap (l := s)).length_le
  rw [_front, List.length_cons] at shorter
  have := length_endLike_le rest after
  omega

def cutAt? (mark : List Char) : List Char → Option (List Char × List Char)
  | [] => if mark.isEmpty then some ([], []) else none
  | c :: rest =>
    if mark.isPrefixOf (c :: rest) then some ([], (c :: rest).drop mark.length)
    else (cutAt? mark rest).map fun (before, after) => (c :: before, after)

def literalText (mark : String) (forbidden : Char → Bool) (s : List Char) :
    Except Fault (List Char × List Char) :=
  match cutAt? mark.toList s with
  | none => refuse (.missingQuote mark) []
  | some (before, after) => do
    checkStretch forbidden before (s.drop before.length)
    return (before, after)

def escapes : List (Char × Char) :=
  [('b', '\x08'), ('t', '\t'), ('n', '\n'), ('f', '\x0c'), ('r', '\r'), ('"', '"'), ('\\', '\\')]

def hexValue? (c : Char) : Option Nat :=
  if c.isDigit then some (c.toNat - 48)
  else if 'a' ≤ c && c ≤ 'f' then some (c.toNat - 87)
  else if 'A' ≤ c && c ≤ 'F' then some (c.toNat - 55)
  else none

def hexChar (count : Nat) (s : List Char) : Except Fault Char :=
  match (s.take count).mapM hexValue? with
  | none => refuse .badHex s
  | some digits =>
    if digits.length < count then refuse .badHex s
    else
      let code := Text.ofDigits 16 digits
      if code.isValidChar then .ok (Char.ofNat code) else refuse .notScalar (s.drop count)

def hexLength? (c : Char) : Option Nat :=
  if c == 'u' then some 4 else if c == 'U' then some 8 else none

/-- A text in double quotation marks, after the opening ones. After a backslash at the end of a
line, all blanks up to the next character are left out; `gap` tells that they are being read, and
whether the line has ended. -/
def basicText (lines : Bool) (gap : Option Bool) (s : List Char) :
    Except Fault (List Char × List Char) :=
  match s with
  | [] => refuse .unterminatedString []
  | c :: rest =>
    let add := fun (d : Char) (r : Except Fault (List Char × List Char)) =>
      r.map fun (text, after) => (d :: text, after)
    if gap.isSome && isSpace c then basicText lines gap rest
    else if gap.isSome && c == '\n' then basicText lines (some true) rest
    else if gap == some false then refuse .badEscape (c :: rest)
    else if c == '"' then
      if !lines then .ok ([], rest)
      else if "\"\"".toList.isPrefixOf rest then .ok ([], rest.drop 2)
      else add c (basicText lines none rest)
    else if c == '\\' then
      match rest with
      | [] => refuse .badEscape []
      | e :: more =>
        if lines && isSpace e then basicText lines (some false) more
        else if lines && e == '\n' then basicText lines (some true) more
        else
          match hexLength? e, escapes.lookup e with
          | some count, _ => do add (← hexChar count more) (basicText lines none (more.drop count))
          | none, some d => add d (basicText lines none more)
          | none, none => refuse .badEscape more
    else if (if lines then isForbiddenInLines c else isForbidden c) then
      refuse (.illegalChar c) (c :: rest)
    else add c (basicText lines none rest)
termination_by s.length
decreasing_by
  all_goals
    simp only [List.length_cons, List.length_drop]
    omega

/-- One or two quotation marks that stand right before the closing ones belong to the text. -/
def takeExtraMarks (mark : Char) (text rest : List Char) : List Char × List Char :=
  match rest with
  | a :: b :: more =>
    if a == mark then
      if b == mark then (text ++ [mark, mark], more) else (text ++ [mark], b :: more)
    else (text, rest)
  | [a] => if a == mark then (text ++ [mark], []) else (text, rest)
  | [] => (text, [])

/-- A text on several lines does not begin with the line end after its opening marks. -/
def dropFirstLineEnd : List Char → List Char
  | '\n' :: rest => rest
  | s => s

def quotedText? : List Char → Option (Except Fault (List Char × List Char))
  | '"' :: '"' :: '"' :: rest => some do
    let (text, after) ← basicText true none (dropFirstLineEnd rest)
    return takeExtraMarks '"' text after
  | '"' :: rest => some (basicText false none rest)
  | '\'' :: '\'' :: '\'' :: rest => some do
    let (text, after) ← literalText "'''" isForbiddenInLines (dropFirstLineEnd rest)
    return takeExtraMarks '\'' text after
  | '\'' :: rest => some (literalText "'" isForbidden rest)
  | _ => none

def isBare (c : Char) : Bool :=
  c.isAlphanum || c == '-' || c == '_'

def startsKey (c : Char) : Bool :=
  isBare c || c == '"' || c == '\''

def keyPart (s : List Char) : Except Fault (String × List Char) :=
  match s with
  | '"' :: rest => (basicText false none rest).map fun (text, after) => (String.ofList text, after)
  | '\'' :: rest =>
    (literalText "'" isForbidden rest).map fun (text, after) => (String.ofList text, after)
  | _ =>
    let part := s.takeWhile isBare
    if part.isEmpty then refuse .badKeyStart s
    else .ok (String.ofList part, s.dropWhile isBare)

def readKey (s : List Char) : Except Fault (Key × List Char) := do
  let (part, after) ← keyPart s
  match _front : skipSpaces (endLike s after) with
  | '.' :: more =>
    let (parts, after) ← readKey (skipSpaces more)
    return (part :: parts, after)
  | after => return ([part], after)
termination_by s.length
decreasing_by
  have first := length_skipSpaces_le (endLike s after)
  have second := length_endLike_le s after
  have third := length_skipSpaces_le more
  rw [_front, List.length_cons] at first
  omega

end Apidoc.Toml
