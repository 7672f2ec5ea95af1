import Apidoc.Xml.Aside
import Apidoc.Xml.Fault

/-!
The tokens of the parts of a document outside its root element.
-/
namespace Apidoc.Xml.Prolog

/-- The kinds of names: with no colon, with one, and those that only a list of values may hold. -/
inductive NameKind where
  | simple
  | prefixed
  | loose
  deriving DecidableEq, Repr

inductive Token where
  | blank
  | aside (declaration : Bool)
  | declaration (word : List Char)
  | root
  | sectionOpen
  | sectionClose
  | name (chars : List Char) (kind : NameKind)
  | repeated (chars : List Char)
  | literal (chars : List Char)
  | percent
  | parameter
  | keyword (chars : List Char)
  | comma
  | bar
  | openBracket
  | closeBracket
  | openParen
  | closeParen (mark : Option Char)
  | close
  deriving DecidableEq, Repr

/-- Why there is no token: the text ends inside it, or it cannot go on with a character. -/
inductive Stop where
  | incomplete
  | invalid (left : Nat)
  deriving DecidableEq, Repr

abbrev Scan := Except Stop (Token × List Char)

def stopAt {α : Type} (rest : List Char) : Except Stop α := .error (.invalid rest.length)

def scanAside (aside : Aside) : List Char → Scan
  | [] => .error .incomplete
  | c :: rest =>
    match aside.step c with
    | none => stopAt (c :: rest)
    | some (.more aside) => scanAside aside rest
    | some (.done declaration) => .ok (.aside declaration, rest)

/-- Reads a literal to the quotation mark that ends it and looks at the character after that. -/
def scanLiteral (quote : Char) (chars : List Char) : List Char → Scan
  | [] => .error .incomplete
  | c :: rest =>
    if c == quote then
      match rest with
      | [] => .ok (.literal chars, [])
      | d :: _ =>
        if isSpace d || d == '>' || d == '%' || d == '[' then .ok (.literal chars, rest)
        else stopAt rest
    else if isLegal c then scanLiteral quote (chars ++ [c]) rest
    else stopAt (c :: rest)

def scanDeclaration (word : List Char) : List Char → Scan
  | [] => .error .incomplete
  | c :: rest =>
    if isSpace c then .ok (.declaration word, c :: rest)
    else if c == '%' then
      match rest with
      | [] => .error .incomplete
      | d :: _ =>
        if isSpace d || d == '%' then stopAt (c :: rest) else .ok (.declaration word, c :: rest)
    else if c.isAlpha || c == '_' then scanDeclaration (word ++ [c]) rest
    else stopAt (c :: rest)

def scanParameter : List Char → Scan
  | [] => .error .incomplete
  | c :: rest =>
    if c == ';' then .ok (.parameter, rest)
    else if isNameChar c then scanParameter rest
    else stopAt (c :: rest)

def scanKeyword (chars : List Char) : List Char → Scan
  | [] => .ok (.keyword chars, [])
  | c :: rest =>
    if isNameChar c then scanKeyword (chars ++ [c]) rest
    else if isSpace c || c == ')' || c == '>' || c == '%' || c == '|' then
      .ok (.keyword chars, c :: rest)
    else stopAt (c :: rest)

def scanName (kind : NameKind) (chars : List Char) : List Char → Scan
  | [] => .ok (.name chars kind, [])
  | c :: rest =>
    if isNameChar c then scanName kind (chars ++ [c]) rest
    else if isSpace c || c == '>' || c == ')' || c == ',' || c == '|' || c == '[' || c == '%' then
      .ok (.name chars kind, c :: rest)
    else if c == ':' then
      match kind, rest with
      | .simple, [] => .error .incomplete
      | .simple, d :: _ =>
        scanName (if isNameChar d then .prefixed else .loose) (chars ++ [c]) rest
      | _, _ => scanName .loose (chars ++ [c]) rest
    else if (c == '+' || c == '*' || c == '?') && kind ≠ .loose then .ok (.repeated chars, rest)
    else stopAt (c :: rest)

def scanLess (text : List Char) : Scan :=
  match text with
  | [] => .error .incomplete
  | '!' :: rest =>
    match rest with
    | [] => .error .incomplete
    | '-' :: rest => scanAside .commentStart rest
    | '[' :: rest => .ok (.sectionOpen, rest)
    | c :: more =>
      if c.isAlpha || c == '_' then scanDeclaration [c] more else stopAt rest
  | '?' :: rest => scanAside (.target []) rest
  | c :: _ =>
    if c.isAlpha || c == '_' || c.toNat > 0x7F then .ok (.root, text) else stopAt text

def scanToken (c : Char) (rest : List Char) : Scan :=
  if c == '"' || c == '\'' then scanLiteral c [] rest
  else if c == '<' then scanLess rest
  else if isSpace c then .ok (.blank, rest.dropWhile isSpace)
  else if c == '%' then
    match rest with
    | [] => .error .incomplete
    | d :: more =>
      if isNameStart d then scanParameter more
      else if isSpace d || d == '%' then .ok (.percent, rest)
      else stopAt rest
  else if c == ',' then .ok (.comma, rest)
  else if c == '|' then .ok (.bar, rest)
  else if c == '>' then .ok (.close, rest)
  else if c == '[' then .ok (.openBracket, rest)
  else if c == ']' then
    match rest with
    | ']' :: [] => .error .incomplete
    | ']' :: '>' :: more => .ok (.sectionClose, more)
    | _ => .ok (.closeBracket, rest)
  else if c == '(' then .ok (.openParen, rest)
  else if c == ')' then
    match rest with
    | [] => .ok (.closeParen none, [])
    | d :: more =>
      if d == '*' || d == '?' || d == '+' then .ok (.closeParen (some d), more)
      else if isSpace d || d == '>' || d == ',' || d == '|' || d == ')' then
        .ok (.closeParen none, rest)
      else stopAt rest
  else if c == '#' then
    match rest with
    | [] => .error .incomplete
    | d :: more => if isNameStart d then scanKeyword [d] more else stopAt rest
  else if isNameStart c then scanName .simple [c] rest
  else if isNameChar c || c == ':' then scanName .loose [c] rest
  else stopAt (c :: rest)

def Stop.fault (stop : Stop) (left : Nat) : Fault :=
  match stop with
  | .incomplete => ⟨.unclosedToken, left⟩
  | .invalid place => ⟨.invalidToken, place⟩

end Apidoc.Xml.Prolog
