import Apidoc.Text.Identifier
import Apidoc.Text.Printable
import Apidoc.Digest.Sha1

/-!
The tokens of a value that is written out: names, numbers, texts and marks. What is not a token at
all is refused with a message, and so are brackets that do not match.
-/
namespace Apidoc.Console.Literal

/-- A token. A broken one stands where there is none; its message is said only if it is reached. -/
inductive Token where
  | name (s : String)
  | number (imaginary : Bool)
  | text (bytes formatted : Bool)
  | mark (s : String)
  | lineEnd
  | indent
  | ending
  | broken (message : String)
  deriving DecidableEq, Repr

abbrev Rest := Except String (List Char)

/-- Whether a character is taken for a part of a name before names are checked. -/
def isNameLike (c : Char) : Bool :=
  c.isAlphanum || c == '_' || c.toNat ≥ 0x80

def codeLabel (c : Char) : String :=
  String.ofList ((Digest.hexDigits (if c.toNat ≤ 0xFFFF then 4 else if c.toNat ≤ 0xFFFFF then 5
    else 6) c.toNat).map Char.toUpper)

def strangeCharacter (c : Char) : String :=
  if Text.isPrintable c then s!"invalid character '{c}' (U+{codeLabel c})"
  else s!"invalid non-printable character U+{codeLabel c}"

def checkNameParts : List Char → Except String PUnit
  | [] => .ok ()
  | c :: rest =>
    if Text.isIdentifierPart c then checkNameParts rest else .error (strangeCharacter c)

def checkName : List Char → Except String PUnit
  | [] => .ok ()
  | c :: rest =>
    if Text.isIdentifierStart c then checkNameParts rest else .error (strangeCharacter c)

def wordsAfterNumber : List String := ["and", "else", "for", "if", "in", "is", "or", "not"]

def endNumber (kind : String) (rest : List Char) : Rest :=
  if rest.head?.any isNameLike && !wordsAfterNumber.any (·.toList.isPrefixOf rest) then
    .error s!"invalid {kind} literal"
  else .ok rest

def skipDigits (isDigit : Char → Bool) : List Char → Option (List Char)
  | [] => some []
  | '_' :: c :: rest => if isDigit c then skipDigits isDigit rest else none
  | ['_'] => none
  | c :: rest => if isDigit c then skipDigits isDigit rest else some (c :: rest)

def skipDecimals (s : List Char) : Rest :=
  match skipDigits Char.isDigit s with
  | some rest => .ok rest
  | none => .error "invalid decimal literal"

def skipBased (kind : String) (isDigit : Char → Bool) (s : List Char) : Rest :=
  let wrong := fun (c : Option Char) => match c with
    | some c =>
      if c.isDigit && kind ≠ "hexadecimal" then s!"invalid digit '{c}' in {kind} literal"
      else s!"invalid {kind} literal"
    | none => s!"invalid {kind} literal"
  let start := match s with
    | '_' :: rest => rest
    | rest => rest
  if !start.head?.any isDigit then .error (wrong start.head?)
  else
    match skipDigits isDigit start with
    | none => .error (wrong (((start.dropWhile fun c => isDigit c || c == '_')).head?))
    | some rest =>
      if rest.head?.any Char.isDigit then .error (wrong rest.head?) else endNumber kind rest

def afterNumber (s : List Char) : Except String (Bool × List Char) :=
  match s with
  | c :: rest =>
    if c == 'j' || c == 'J' then do return (true, ← endNumber "imaginary" rest)
    else do return (false, ← endNumber "decimal" s)
  | [] => .ok (false, [])

def afterFraction (s : List Char) : Except String (Bool × List Char) :=
  match s with
  | e :: rest =>
    if e == 'e' || e == 'E' then
      match rest with
      | sign :: more =>
        if sign == '+' || sign == '-' then
          if more.head?.any Char.isDigit then do afterNumber (← skipDecimals more)
          else .error "invalid decimal literal"
        else if sign.isDigit then do afterNumber (← skipDecimals rest)
        else do return (false, ← endNumber "decimal" s)
      | [] => do return (false, ← endNumber "decimal" s)
    else afterNumber s
  | [] => .ok (false, [])

def afterWhole (s : List Char) : Except String (Bool × List Char) :=
  match s with
  | '.' :: rest =>
    if rest.head?.any Char.isDigit then do afterFraction (← skipDecimals rest)
    else afterFraction rest
  | s => afterFraction s

def leadingZeros : String :=
  "leading zeros in decimal integer literals are not permitted; "
    ++ "use an 0o prefix for octal integers"

def isHexadecimal (c : Char) : Bool :=
  c.isDigit || ('a' ≤ c.toLower && c.toLower ≤ 'f')

/-- Reads a number that starts with a digit: whether it is imaginary, and the rest. -/
def scanNumber (s : List Char) : Except String (Bool × List Char) :=
  match s with
  | '0' :: c :: rest =>
    if c == 'x' || c == 'X' then do
      return (false, ← skipBased "hexadecimal" isHexadecimal rest)
    else if c == 'o' || c == 'O' then do
      return (false, ← skipBased "octal" (fun d => '0' ≤ d && d ≤ '7') rest)
    else if c == 'b' || c == 'B' then do
      return (false, ← skipBased "binary" (fun d => d == '0' || d == '1') rest)
    else do
      let after ← skipDecimals (c :: rest)
      let digits := (c :: rest).take (rest.length + 1 - after.length)
      let isWhole := match after with
        | d :: _ => !(['.', 'e', 'E', 'j', 'J'].contains d)
        | [] => true
      if isWhole && digits.any (fun d => d ≠ '0' && d ≠ '_') then throw leadingZeros
      afterWhole after
  | s => do afterWhole (← skipDecimals s)

/-- Reads a text to the quotation mark that ends it, from line `line` on: the line of its end, and
the rest. -/
def scanText (quote : Char) (triple : Bool) (line : Nat) :
    List Char → Except String (Nat × List Char)
  | [] => .error (unterminated line)
  | ['\\'] => .error (unterminated line)
  | '\\' :: c :: rest => scanText quote triple (if c == '\n' then line + 1 else line) rest
  | c :: rest =>
    if c == quote then
      if !triple then .ok (line, rest)
      else
        match rest with
        | d :: e :: more =>
          if d == quote && e == quote then .ok (line, more)
          else scanText quote triple line (d :: e :: more)
        | rest => scanText quote triple line rest
    else if c == '\n' then
      if triple then scanText quote triple (line + 1) rest else .error (unterminated line)
    else scanText quote triple line rest
where
  unterminated (line : Nat) : String :=
    let kind := if triple then "triple-quoted string" else "string"
    s!"unterminated {kind} literal (detected at line {line})"

def longMarks : List String :=
  ["**=", "//=", ">>=", "<<=", "...", "**", "//", ">>", "<<", "<=", ">=", "==", "!=", "->", "+=",
   "-=", "*=", "/=", "%=", "&=", "|=", "^=", "@=", ":=", "<>"]

def textLetters : List String := ["b", "u", "r", "f", "br", "rb", "fr", "rf"]

def closing : Char → Char
  | '(' => ')'
  | '[' => ']'
  | _ => '\x7d'

def bracketLimit : Nat := 200

abbrev Opened := List (Char × Nat)

def bracketsAfter (opened : Opened) (line : Nat) (c : Char) : Except String Opened :=
  if c == '(' || c == '[' || c == '\x7b' then
    if opened.length ≥ bracketLimit then .error "too many nested parentheses"
    else .ok ((c, line) :: opened)
  else if c == ')' || c == ']' || c == '\x7d' then
    match opened with
    | [] => .error s!"unmatched '{c}'"
    | (o, start) :: outer =>
      let place := if start = line then "" else s!" on line {start}"
      if closing o == c then .ok outer
      else .error s!"closing parenthesis '{c}' does not match opening parenthesis '{o}'{place}"
  else .ok opened

/-- What stands at the start of a line outside brackets: the end of the line before it, and space
before the first token. Empty lines do not count. -/
def lineTokens (rest : List Char) : List Token :=
  match rest.dropWhile (fun c => c == ' ' || c == '\t') with
  | [] => [.lineEnd]
  | c :: _ =>
    if c ≠ '\n' && c ≠ '#' && rest.head?.any (fun d => d == ' ' || d == '\t') then
      [.lineEnd, .indent]
    else [.lineEnd]

def endToken : Opened → Token
  | [] => .ending
  | (c, _) :: _ => .broken s!"'{c}' was never closed"

/-- The tokens of the rest of a text. Each step takes at least one character, so `fuel` is the
number of characters. -/
def tokensFrom (opened : Opened) (line : Nat) :
    (fuel : Nat) → List Char → Except String (List Token)
  | _, [] => .ok [endToken opened]
  | 0, _ => .ok [endToken opened]
  | fuel + 1, c :: rest =>
    let next := fun (token : Token) (rest : List Char) => do
      return token :: (← tokensFrom opened line fuel rest)
    if c == ' ' || c == '\t' || c == '\x0c' then tokensFrom opened line fuel rest
    else if c == '\n' then
      if opened.isEmpty then do
        return lineTokens rest ++ (← tokensFrom opened (line + 1) fuel rest)
      else tokensFrom opened (line + 1) fuel rest
    else if c == '#' then tokensFrom opened line fuel (rest.dropWhile (· ≠ '\n'))
    else if c == '\\' then
      match rest with
      | [] | ['\n'] =>
        .ok [if opened.isEmpty then .broken "unexpected EOF while parsing" else endToken opened]
      | '\n' :: rest => tokensFrom opened (line + 1) fuel rest
      | _ => .ok [.broken "unexpected character after line continuation character"]
    else if c == '"' || c == '\'' then do
      let (line, rest) ← afterQuote c rest
      return .text false false :: (← tokensFrom opened line fuel rest)
    else if c.isDigit || (c == '.' && rest.head?.any Char.isDigit) then do
      let (imaginary, rest) ←
        if c.isDigit then scanNumber (c :: rest) else afterWhole (c :: rest)
      next (.number imaginary) rest
    else if isNameLike c then
      let chars := (c :: rest).takeWhile isNameLike
      let after := (c :: rest).dropWhile isNameLike
      let letters := String.ofList (chars.map Char.toLower)
      match after with
      | q :: more =>
        if (q == '"' || q == '\'') && textLetters.contains letters then do
          let (line, rest) ← afterQuote q more
          let token := Token.text (letters.toList.contains 'b') (letters.toList.contains 'f')
          return token :: (← tokensFrom opened line fuel rest)
        else do
          checkName chars
          next (.name (String.ofList chars)) after
      | [] => do
        checkName chars
        next (.name (String.ofList chars)) []
    else if c.toNat < 0x20 || c.toNat = 0x7F then .error (strangeCharacter c)
    else
      match longMarks.find? (·.toList.isPrefixOf (c :: rest)) with
      | some mark => next (.mark mark) (rest.drop (mark.length - 1))
      | none => do
        let opened ← bracketsAfter opened line c
        return .mark (String.singleton c) :: (← tokensFrom opened line fuel rest)
where
  afterQuote (quote : Char) (rest : List Char) : Except String (Nat × List Char) :=
    match rest with
    | d :: e :: more =>
      if d == quote && e == quote then scanText quote true line more
      else scanText quote false line rest
    | rest => scanText quote false line rest

def tokens (s : List Char) : Except String (List Token) :=
  tokensFrom [] 1 s.length s

end Apidoc.Console.Literal
