import Apidoc.Text.Identifier
import Apidoc.Text.Integer
import Apidoc.Text.Quoted

/-!
Replacement templates. A template is literal text in which a backslash starts an escape: for a
control character, for a character by its octal code, or for the text that is being replaced.

`Template.read` gives the pieces of a template or the first fault in it, and `Template.fill` puts
the replaced text in.
-/
namespace Apidoc.Stem

inductive Piece where
  | literal (text : List Char)
  | whole

abbrev Template := List Piece

def Template.fill (template : Template) (replaced : List Char) : List Char :=
  template.flatMap fun
    | .literal text => text
    | .whole => replaced

inductive TemplateCause where
  | trailingBackslash
  | badEscape (letter : Char)
  | missingBracket
  | missingGroupName
  | unterminatedName
  | badGroupName (name : String)
  | noSuchGroup (number : Nat)
  | unknownGroupName (name : String)
  | octalTooLarge (digits : String)

structure TemplateFault where
  template : String
  cause : TemplateCause
  offset : Nat

def TemplateCause.message : TemplateCause → String
  | .trailingBackslash => "bad escape (end of pattern)"
  | .badEscape letter => s!"bad escape \\{letter}"
  | .missingBracket => "missing <"
  | .missingGroupName => "missing group name"
  | .unterminatedName => "missing >, unterminated name"
  | .badGroupName name => s!"bad character in group name {Text.quoted name}"
  | .noSuchGroup number => s!"invalid group reference {number}"
  | .unknownGroupName name => s!"unknown group name {Text.quoted name}"
  | .octalTooLarge digits => s!"octal escape value \\{digits} outside of range 0-0o377"

def TemplateFault.message (fault : TemplateFault) : String :=
  match fault.cause with
  | .unknownGroupName _ => fault.cause.message
  | cause =>
    let text := fault.template.toList
    let before := text.take fault.offset
    let place := s!"{cause.message} at position {fault.offset}"
    if text.contains '\n' then
      let line := before.count '\n' + 1
      let column := (before.reverse.takeWhile (· ≠ '\n')).length + 1
      s!"{place} (line {line}, column {column})"
    else place

inductive Mark where
  | plain (c : Char)
  | escape (c : Char)
  | broken

def Mark.chars : Mark → List Char
  | .plain c => [c]
  | .escape c => ['\\', c]
  | .broken => ['\\']

def marks : List Char → List Mark
  | [] => []
  | ['\\'] => [.broken]
  | '\\' :: c :: rest => .escape c :: marks rest
  | c :: rest => .plain c :: marks rest

def width : List Mark → Nat
  | [] => 0
  | m :: rest => m.chars.length + width rest

def controlEscape? : Char → Option Char
  | 'a' => some '\x07'
  | 'b' => some '\x08'
  | 'f' => some '\x0c'
  | 'n' => some '\n'
  | 'r' => some '\r'
  | 't' => some '\t'
  | 'v' => some '\x0b'
  | '\\' => some '\\'
  | _ => none

def isOctal (c : Char) : Bool :=
  '0' ≤ c && c ≤ '7'

def numeral (base : Nat) (digits : List Char) : Nat :=
  Text.ofDigits base (digits.map fun c => c.toNat - '0'.toNat)

def octalChar (digits : List Char) : Char :=
  Char.ofNat (numeral 8 digits % 256)

/-- What a reference by name or number means. Only number zero, the whole match, exists. -/
def reference (name : List Char) : Except TemplateCause Piece :=
  let text := String.ofList name
  if Text.isIdentifier name then .error (.unknownGroupName text)
  else
    match Text.readInteger text with
    | .ok 0 => .ok .whole
    | .ok (.ofNat n) => .error (.noSuchGroup n)
    | _ => .error (.badGroupName text)

/-- Refuses to go on when the next mark is the broken one: it is noticed before the mark in front
of it is judged. -/
def lookAhead (template : String) : List Mark → Except TemplateFault PUnit
  | .broken :: _ => .error ⟨template, .trailingBackslash, template.length - 1⟩
  | _ => .ok ()

def readMarks (template : String) : Option (List Char) → List Mark → Except TemplateFault Template
  | none, [] => .ok []
  | none, .plain c :: rest => do
    lookAhead template rest
    return .literal [c] :: (← readMarks template none rest)
  | none, [.escape 'g'] => .error ⟨template, .missingBracket, template.length⟩
  | none, .escape 'g' :: .plain '<' :: rest => do
    lookAhead template rest
    readMarks template (some []) rest
  | none, .escape 'g' :: u :: rest => do
    lookAhead template (u :: rest)
    .error ⟨template, .missingBracket, template.length - width (u :: rest)⟩
  | none, .escape '0' :: .plain d :: .plain e :: rest => do
    if isOctal d then
      lookAhead template (.plain e :: rest)
      if isOctal e then
        lookAhead template rest
        return .literal [octalChar [d, e]] :: (← readMarks template none rest)
      return .literal [octalChar [d]] :: (← readMarks template none (.plain e :: rest))
    return .literal [octalChar []] :: (← readMarks template none (.plain d :: .plain e :: rest))
  | none, .escape '0' :: .plain d :: rest => do
    if isOctal d then
      lookAhead template rest
      return .literal [octalChar [d]] :: (← readMarks template none rest)
    return .literal [octalChar []] :: (← readMarks template none (.plain d :: rest))
  | none, .escape '0' :: rest => do
    lookAhead template rest
    return .literal [octalChar []] :: (← readMarks template none rest)
  | none, .escape c :: rest => do
    lookAhead template rest
    if c.isDigit then
      let start := template.length - width rest - 1
      match rest with
      | .plain d :: more =>
        if d.isDigit then
          lookAhead template more
          match more with
          | .plain e :: last =>
            if isOctal c && isOctal d && isOctal e then
              lookAhead template last
              if numeral 8 [c, d, e] > 255 then
                .error ⟨template, .octalTooLarge (String.ofList [c, d, e]), start - 1⟩
              return .literal [octalChar [c, d, e]] :: (← readMarks template none last)
            .error ⟨template, .noSuchGroup (numeral 10 [c, d]), start⟩
          | _ => .error ⟨template, .noSuchGroup (numeral 10 [c, d]), start⟩
        else .error ⟨template, .noSuchGroup (numeral 10 [c]), start⟩
      | _ => .error ⟨template, .noSuchGroup (numeral 10 [c]), start⟩
    else
      match controlEscape? c with
      | some control => return .literal [control] :: (← readMarks template none rest)
      | none =>
        if c.isAlpha then
          .error ⟨template, .badEscape c, template.length - width rest - 2⟩
        return .literal ['\\', c] :: (← readMarks template none rest)
  | none, .broken :: _ => .error ⟨template, .trailingBackslash, template.length - 1⟩
  | some [], [] => .error ⟨template, .missingGroupName, template.length⟩
  | some name, [] => .error ⟨template, .unterminatedName, template.length - name.length⟩
  | some name, .plain '>' :: rest => do
    lookAhead template rest
    let stop := template.length - width rest
    if name.isEmpty then .error ⟨template, .missingGroupName, stop - 1⟩
    match reference name with
    | .ok piece => return piece :: (← readMarks template none rest)
    | .error cause => .error ⟨template, cause, stop - (name.length + 1)⟩
  | some name, u :: rest => do
    lookAhead template rest
    readMarks template (some (name ++ u.chars)) rest

/-- The pieces of a template. A text without a backslash is one literal. -/
def Template.read (template : String) : Except TemplateFault Template := do
  let ms := marks template.toList
  lookAhead template ms
  readMarks template none ms

end Apidoc.Stem
