import Apidoc.Console.Literal.Token

/-!
Phrases: what a written value may be put together from. A phrase is known by what messages call it
and by the value it stands for; most phrases stand for none, because they would have to be computed.

Readers take the tokens from a place on. Where no phrase of their kind begins they say so and
another kind may be tried, but a message ends all reading. A text that is no phrase at all is read
a second time with `explain` set, and then the readers look for a likely mistake at each place.
-/
namespace Apidoc.Console.Literal

/-- What a phrase stands for: a number after a sign, another value that can be in a set, or one that
cannot because it may change. -/
inductive Worth where
  | number (imaginary : Bool)
  | signed (imaginary : Bool)
  | fixed
  | changing (kind : String)
  deriving DecidableEq, Repr

def malformed : String := "malformed node or string on line 1"

/-- A phrase: what messages call it, what it stands for or why for nothing, the name that it
consists of, and whether it stands between brackets of its own. -/
structure Phrase where
  label : String
  worth : Except String Worth := .error malformed
  name : Option String := none
  grouped : Bool := false

def addMember (worth : Except String Worth) : Except String PUnit := do
  match ← worth with
  | .changing kind => throw s!"unhashable type: '{kind}'"
  | _ => return ()

/-- The worth of a tuple: it can be in a set if all its parts can. -/
def tupleWorth : List Phrase → Except String Worth
  | [] => .ok .fixed
  | p :: rest => do
    match ← p.worth, ← tupleWorth rest with
    | .changing kind, _ => return .changing kind
    | _, whole => return whole

def Phrase.tuple (parts : List Phrase) : Phrase :=
  { label := "tuple", worth := tupleWorth parts }

def Phrase.set (members : List Phrase) : Phrase :=
  { label := "set display"
    worth := do
      members.forM fun m => addMember m.worth
      return .changing "set" }

inductive TableEntry where
  | pair (key value : Phrase)
  | unpacked

def TableEntry.add : TableEntry → Except String PUnit
  | .pair key value => do
    let _ ← key.worth
    let _ ← value.worth
    addMember key.worth
  | .unpacked => .error "malformed node or string: None"

def Phrase.table (entries : List TableEntry) : Phrase :=
  { label := "dict literal"
    worth := do
      entries.forM TableEntry.add
      return .changing "dict" }

def Phrase.afterSign (p : Phrase) : Phrase :=
  { label := "expression"
    worth := match p.worth with
      | .ok (.number imaginary) => .ok (.signed imaginary)
      | _ => .error malformed }

/-- Two phrases with an operator between: only a real and an imaginary number can be added. -/
def Phrase.combined (mark : String) (left right : Phrase) : Phrase :=
  { label := "expression"
    worth :=
      if mark ≠ "+" && mark ≠ "-" then .error malformed
      else
        match left.worth, right.worth with
        | .ok (.number false), .ok (.number true) => .ok .fixed
        | .ok (.signed false), .ok (.number true) => .ok .fixed
        | _, _ => .error malformed }

/-- A phrase that is called; without arguments, a certain name makes a set. -/
def Phrase.called (p : Phrase) (hasArguments : Bool) : Phrase :=
  { label := "function call"
    worth := if p.name == some "set" && !hasArguments then .ok (.changing "set")
      else .error malformed }

def Phrase.texts (formatted : Bool) : Phrase :=
  if formatted then { label := "f-string expression" }
  else { label := "literal", worth := .ok .fixed }

def keywords : List String :=
  ["False", "None", "True", "and", "as", "assert", "async", "await", "break", "class", "continue",
   "def", "del", "elif", "else", "except", "finally", "for", "from", "global", "if", "import", "in",
   "is", "lambda", "nonlocal", "not", "or", "pass", "raise", "return", "try", "while", "with",
   "yield"]

def constants : List String := ["True", "False", "None"]

def softKeywords : List String := ["_", "case", "match"]

def formerStatements : List String := ["print", "exec"]

def arithmeticMarks : List String :=
  ["|", "^", "&", "<<", ">>", "+", "-", "*", "/", "//", "%", "@"]

def comparison? : List Token → Option (List Token)
  | .name "not" :: .name "in" :: rest => some rest
  | .name "in" :: rest => some rest
  | .name "is" :: .name "not" :: rest => some rest
  | .name "is" :: rest => some rest
  | .mark m :: rest => if ["==", "!=", "<", ">", "<=", ">="].contains m then some rest else none
  | _ => none

/-- Where a phrase is read: whether likely mistakes are looked for, and whether it is between
brackets. -/
structure Place where
  explain : Bool
  inside : Bool

def Place.inner (place : Place) : Place := { place with inside := true }

/-- What a reader gives: no phrase of its kind begins here (`none`), or a message. -/
abbrev Match (α : Type) := Except (Option String) α

abbrev Read (α : Type) := α × List Token

def noMatch {α : Type} : Match α := .error none

def say {α : Type} (message : String) : Match α := .error (some message)

def sayIf {α : Type} (place : Place) (message : String) : Match α :=
  if place.explain then say message else noMatch

def attempt {α : Type} : Match α → Match (Option α)
  | .ok a => .ok (some a)
  | .error none => .ok none
  | .error (some message) => .error (some message)

def next : List Token → Match (Read Token)
  | [] => noMatch
  | .broken message :: _ => say message
  | t :: rest => .ok (t, rest)

def upTo {α : Type} (a : α) (rest : List Token) : Match (Read α) := do
  let _ ← next rest
  return (a, rest)

def expect (mark : String) (ts : List Token) : Match (List Token) := do
  let (t, rest) ← next ts
  if t == .mark mark then return rest else noMatch

def startsWith (mark : String) : List Token → Bool
  | .mark m :: _ => m == mark
  | _ => false

def startsWithWord (word : String) : List Token → Bool
  | .name n :: _ => n == word
  | _ => false

def startsClause (ts : List Token) : Bool :=
  startsWithWord "for" ts || startsWithWord "async" ts

def nameBefore? (mark : String) : List Token → Option (String × List Token)
  | .name n :: .mark m :: rest => if m == mark && !keywords.contains n then some (n, rest) else none
  | _ => none

def readTexts (ts : List Token) : Match (Read Phrase) :=
  let texts := ts.takeWhile isText
  if texts.any isBytes && !texts.all isBytes then say "cannot mix bytes and nonbytes literals"
  else upTo (.texts (texts.any isFormatted)) (ts.dropWhile isText)
where
  isText : Token → Bool
    | .text .. => true
    | _ => false
  isBytes : Token → Bool
    | .text bytes _ => bytes
    | _ => false
  isFormatted : Token → Bool
    | .text _ formatted => formatted
    | _ => false

/-- Whether a comma is unlikely to be missing after a phrase that starts with these tokens: a text
after a name may have a wrong letter before it, and some names are keywords elsewhere. -/
def isExempt : List Token → Bool
  | .name n :: .text .. :: _ => softKeywords.contains n || !keywords.contains n
  | .name n :: _ => softKeywords.contains n
  | _ => false

def sayAssigned (label : String) : Match PUnit :=
  say s!"cannot assign to {label} here. Maybe you meant '==' instead of '='?"

def nameAssigned : String :=
  "invalid syntax. Maybe you meant '==' or ':=' instead of '='?"

mutual

def atom (place : Place) : (fuel : Nat) → List Token → Match (Read Phrase)
  | 0, _ => noMatch
  | fuel + 1, ts => do
    let (t, rest) ← next ts
    match t with
    | .name n =>
      if constants.contains n then upTo { label := n, worth := .ok .fixed } rest
      else if keywords.contains n then noMatch
      else upTo { label := "name", name := some n } rest
    | .number imaginary => upTo { label := "literal", worth := .ok (.number imaginary) } rest
    | .text .. => readTexts ts
    | .mark "..." => upTo { label := "ellipsis", worth := .ok .fixed } rest
    | .mark "(" => group place.inner fuel rest
    | .mark "\x7b" => braces place.inner fuel rest
    | _ => noMatch

def group (place : Place) : (fuel : Nat) → List Token → Match (Read Phrase)
  | 0, _ => noMatch
  | fuel + 1, ts => do
    let (t, rest) ← next ts
    if t == .mark ")" then upTo (.tuple []) rest
    else if t == .mark "**" then
      let (_, after) ← expression place fuel rest
      if startsWith ")" after then sayIf place "cannot use double starred expression here"
      else noMatch
    else if t == .name "yield" then
      let (_, after) ← elements place fuel (if startsWithWord "from" rest then rest.tail else rest)
      upTo { label := "yield expression", grouped := true } (← expect ")" after)
    else
      let (first, rest) ← element place fuel ts
      match rest with
      | .mark "," :: more =>
        let (others, rest) ← elements place fuel more
        upTo (.tuple (first :: others)) (← expect ")" rest)
      | .mark ")" :: more =>
        if first.label == "starred" then sayIf place "cannot use starred expression here"
        else upTo { first with grouped := true } more
      | rest => do
        let rest ← clauses place fuel rest
        if first.label == "starred" then
          sayIf place "iterable unpacking cannot be used in comprehension"
        else upTo { label := "generator expression" } (← expect ")" rest)

def braces (place : Place) : (fuel : Nat) → List Token → Match (Read Phrase)
  | 0, _ => noMatch
  | fuel + 1, ts => do
    let (t, rest) ← next ts
    if t == .mark "\x7d" then upTo (.table []) rest
    else if t == .mark "**" then
      let (_, rest) ← arithmetic place fuel rest
      if startsClause rest then
        let rest ← clauses place fuel rest
        let _ ← expect "\x7d" rest
        sayIf place "dict unpacking cannot be used in dict comprehension"
      else entries place fuel [.unpacked] rest
    else if t == .mark "*" || (nameBefore? ":=" ts).isSome then
      let (first, rest) ← element place fuel ts
      members place fuel first rest
    else
      let (key, after) ← expression place fuel ts
      if startsWith ":" after then
        let (value, rest) ← entryValue place fuel after.tail
        if startsClause rest then
          let rest ← clauses place fuel rest
          upTo { label := "dict comprehension" } (← expect "\x7d" rest)
        else entries place fuel [.pair key value] rest
      else
        let (first, rest) ← afterExpression place fuel ts key after
        members place fuel first rest

def entryValue (place : Place) : (fuel : Nat) → List Token → Match (Read Phrase)
  | 0, _ => noMatch
  | fuel + 1, ts => do
    let (t, rest) ← next ts
    if t == .mark "*" then
      let _ ← arithmetic place fuel rest
      sayIf place "cannot use a starred expression in a dictionary value"
    else if t == .mark "\x7d" || t == .mark "," then
      sayIf place "expression expected after dictionary key and ':'"
    else expression place fuel ts

def entries (place : Place) : (fuel : Nat) → List TableEntry → List Token → Match (Read Phrase)
  | 0, _, _ => noMatch
  | fuel + 1, before, ts => do
    let (t, rest) ← next ts
    if t == .mark "\x7d" then upTo (.table before.reverse) rest
    else if t == .mark "," then
      let (t, after) ← next rest
      if t == .mark "\x7d" then upTo (.table before.reverse) after
      else if t == .mark "**" then
        let (_, rest) ← arithmetic place fuel after
        entries place fuel (.unpacked :: before) rest
      else
        let (key, rest) ← expression place fuel rest
        if startsWith ":" rest then
          let (value, rest) ← entryValue place fuel rest.tail
          entries place fuel (.pair key value :: before) rest
        else sayIf place "':' expected after dictionary key"
    else noMatch

def members (place : Place) : (fuel : Nat) → Phrase → List Token → Match (Read Phrase)
  | 0, _, _ => noMatch
  | fuel + 1, first, ts =>
    match ts with
    | .mark "\x7d" :: rest => upTo (.set [first]) rest
    | .mark "," :: more => do
      let (others, rest) ← elements place fuel more
      if startsClause rest then
        let _ ← clauses place fuel rest
        sayIf place "did you forget parentheses around the comprehension target?"
      else upTo (.set (first :: others)) (← expect "\x7d" rest)
    | rest => do
      let rest ← clauses place fuel rest
      if first.label == "starred" then
        sayIf place "iterable unpacking cannot be used in comprehension"
      else upTo { label := "set comprehension" } (← expect "\x7d" rest)

def clauses (place : Place) : (fuel : Nat) → List Token → Match (List Token)
  | 0, _ => noMatch
  | fuel + 1, ts => do
    let ts := if startsWithWord "async" ts then ts.tail else ts
    if !startsWithWord "for" ts then noMatch
    else
      let (_, rest) ← targets place fuel ts.tail
      if !startsWithWord "in" rest then noMatch
      else
        let (_, rest) ← disjunction place fuel rest.tail
        let rest ← conditions place fuel rest
        if startsClause rest then clauses place fuel rest else return rest

def conditions (place : Place) : (fuel : Nat) → List Token → Match (List Token)
  | 0, ts => .ok ts
  | fuel + 1, ts =>
    if startsWithWord "if" ts then do
      let (_, rest) ← disjunction place fuel ts.tail
      conditions place fuel rest
    else .ok ts

def targets (place : Place) : (fuel : Nat) → List Token → Match (Read PUnit)
  | 0, _ => noMatch
  | fuel + 1, ts => do
    let (t, rest) ← next ts
    let (_, rest) ← arithmetic place fuel (if t == .mark "*" then rest else ts)
    if startsWith "," rest then
      match ← attempt (targets place fuel rest.tail) with
      | some found => return found
      | none => return ((), rest.tail)
    else return ((), rest)

def element (place : Place) : (fuel : Nat) → List Token → Match (Read Phrase)
  | 0, _ => noMatch
  | fuel + 1, ts => do
    let (t, rest) ← next ts
    if t == .mark "*" then
      let (_, rest) ← arithmetic place fuel rest
      return ({ label := "starred" }, rest)
    else
      match nameBefore? ":=" ts with
      | some (_, more) =>
        let (_, rest) ← expression place fuel more
        return ({ label := "named expression" }, rest)
      | none =>
        let (p, rest) ← expression place fuel ts
        afterExpression place fuel ts p rest

def elements (place : Place) : (fuel : Nat) → List Token → Match (Read (List Phrase))
  | 0, _ => noMatch
  | fuel + 1, ts => do
    match ← attempt (element place fuel ts) with
    | none => return ([], ts)
    | some (p, rest) =>
      if startsWith "," rest then
        let (others, rest) ← elements place fuel rest.tail
        return (p :: others, rest)
      else return ([p], rest)

/-- Checks what follows an expression that may not be assigned to; `ts` is where it starts. -/
def afterExpression (place : Place) :
    (fuel : Nat) → List Token → Phrase → List Token → Match (Read Phrase)
  | 0, _, _, _ => noMatch
  | fuel + 1, ts, p, rest => do
    if place.explain && startsWith ":=" rest then
      if (← attempt (expression place fuel rest.tail)).isSome then
        say s!"cannot use assignment expressions with {p.label}"
    if place.explain && startsWith "=" rest then
      if (← isAssigned place fuel rest.tail) then
        if (nameBefore? "=" ts).isSome then say nameAssigned
        let isOpen := match ← attempt (atom place fuel ts) with
          | some (first, _) => !constants.contains first.label
            && (first.grouped || !(["tuple", "generator expression"].contains first.label))
          | none => true
        match ← attempt (arithmetic place fuel ts) with
        | some (left, after) => if isOpen && startsWith "=" after then sayAssigned left.label
        | none => pure ()
    if startsWith ":=" rest then noMatch else return (p, rest)

/-- Whether one value stands after an equals sign, and no other such sign after it. -/
def isAssigned (place : Place) : (fuel : Nat) → List Token → Match Bool
  | 0, _ => .ok false
  | fuel + 1, ts => do
    match ← attempt (arithmetic place fuel ts) with
    | some (_, rest) => return !startsWith "=" rest && !startsWith ":=" rest
    | none => return false

def expression (place : Place) : (fuel : Nat) → List Token → Match (Read Phrase)
  | 0, _ => noMatch
  | fuel + 1, ts => do
    let (t, rest) ← next ts
    if t == .name "lambda" then
      let rest ← parameters place fuel rest
      let (_, rest) ← expression place fuel (← expect ":" rest)
      return ({ label := "lambda" }, rest)
    else
      let (p, rest) ← disjunction place fuel ts
      if place.explain then explainExpression place fuel ts p rest
      if startsWithWord "if" rest then
        match ← attempt (alternative place fuel rest.tail) with
        | some rest => return ({ label := "conditional expression" }, rest)
        | none => return (p, rest)
      else return (p, rest)

def alternative (place : Place) : (fuel : Nat) → List Token → Match (List Token)
  | 0, _ => noMatch
  | fuel + 1, ts => do
    let (_, rest) ← disjunction place fuel ts
    if !startsWithWord "else" rest then noMatch
    else
      let (_, rest) ← expression place fuel rest.tail
      return rest

/-- Looks for a likely mistake after a part of an expression; `ts` is where it starts. -/
def explainExpression (place : Place) :
    (fuel : Nat) → List Token → Phrase → List Token → Match PUnit
  | 0, _, _, _ => .ok ()
  | fuel + 1, ts, p, rest => do
    let isFormer := p.name.any formerStatements.contains
    if !isExempt ts then
      let other ← attempt (expression { place with explain := false } fuel rest)
      if other.isSome && !isFormer && place.inside then
        say "invalid syntax. Perhaps you forgot a comma?"
    if startsWithWord "if" rest then
      match ← attempt (disjunction place fuel rest.tail) with
      | some (_, after) =>
        if !startsWithWord "else" after && !startsWith ":" after then
          say "expected 'else' after 'if' expression"
      | none => pure ()
    match ts with
    | .name n :: after =>
      if formerStatements.contains n && !startsWith "(" after then
        match ← attempt (element place fuel after) with
        | some _ => say s!"Missing parentheses in call to '{n}'. Did you mean {n}(...)?"
        | none => pure ()
    | _ => pure ()

def parameters (place : Place) : (fuel : Nat) → List Token → Match (List Token)
  | 0, _ => noMatch
  | fuel + 1, ts => do
    let (t, rest) ← next ts
    match t with
    | .mark ":" => return ts
    | .mark m =>
      if ["*", "**", "/", ","].contains m then parameters place fuel rest else noMatch
    | .name n =>
      if keywords.contains n then noMatch
      else if startsWith "=" rest then
        let (_, rest) ← expression place fuel rest.tail
        parameters place fuel rest
      else parameters place fuel rest
    | _ => noMatch

def disjunction (place : Place) : (fuel : Nat) → List Token → Match (Read Phrase)
  | 0, _ => noMatch
  | fuel + 1, ts => do
    let (p, rest) ← inversion place fuel ts
    disjunctionRest place fuel p rest

def disjunctionRest (place : Place) : (fuel : Nat) → Phrase → List Token → Match (Read Phrase)
  | 0, p, ts => .ok (p, ts)
  | fuel + 1, p, ts =>
    if startsWithWord "and" ts || startsWithWord "or" ts then do
      match ← attempt (inversion place fuel ts.tail) with
      | some (_, rest) => disjunctionRest place fuel { label := "expression" } rest
      | none => return (p, ts)
    else .ok (p, ts)

def inversion (place : Place) : (fuel : Nat) → List Token → Match (Read Phrase)
  | 0, _ => noMatch
  | fuel + 1, ts => do
    let (t, rest) ← next ts
    if t == .name "not" then
      let (_, rest) ← inversion place fuel rest
      return ({ label := "expression" }, rest)
    else
      let (p, rest) ← arithmetic place fuel ts
      comparisonRest place fuel p rest

def comparisonRest (place : Place) : (fuel : Nat) → Phrase → List Token → Match (Read Phrase)
  | 0, p, ts => .ok (p, ts)
  | fuel + 1, p, ts =>
    match comparison? ts with
    | none => .ok (p, ts)
    | some more => do
      match ← attempt (arithmetic place fuel more) with
      | some (_, rest) => comparisonRest place fuel { label := "comparison" } rest
      | none => return (p, ts)

def arithmetic (place : Place) : (fuel : Nat) → List Token → Match (Read Phrase)
  | 0, _ => noMatch
  | fuel + 1, ts => do
    let (p, rest) ← operand place fuel ts
    arithmeticRest place fuel p rest

def arithmeticRest (place : Place) : (fuel : Nat) → Phrase → List Token → Match (Read Phrase)
  | 0, p, ts => .ok (p, ts)
  | fuel + 1, p, ts =>
    match ts with
    | .mark m :: more =>
      if arithmeticMarks.contains m then do
        match ← attempt (operand place fuel more) with
        | some (q, rest) => arithmeticRest place fuel (.combined m p q) rest
        | none => return (p, ts)
      else .ok (p, ts)
    | _ => .ok (p, ts)

def operand (place : Place) : (fuel : Nat) → List Token → Match (Read Phrase)
  | 0, _ => noMatch
  | fuel + 1, ts => do
    let (t, rest) ← next ts
    if t == .mark "+" || t == .mark "-" then
      let (p, rest) ← operand place fuel rest
      return (p.afterSign, rest)
    else if t == .mark "~" then
      let (_, rest) ← operand place fuel rest
      return ({ label := "expression" }, rest)
    else
      let (p, rest) ← primary place fuel ts
      if startsWith "**" rest then
        match ← attempt (operand place fuel rest.tail) with
        | some (_, rest) => return ({ label := "expression" }, rest)
        | none => return (p, rest)
      else return (p, rest)

def primary (place : Place) : (fuel : Nat) → List Token → Match (Read Phrase)
  | 0, _ => noMatch
  | fuel + 1, ts => do
    if startsWithWord "await" ts then
      let (_, rest) ← primary place fuel ts.tail
      return ({ label := "await expression" }, rest)
    else
      let (p, rest) ← atom place fuel ts
      primaryRest place fuel p rest

def primaryRest (place : Place) : (fuel : Nat) → Phrase → List Token → Match (Read Phrase)
  | 0, p, ts => .ok (p, ts)
  | fuel + 1, p, ts =>
    match ts with
    | .mark "." :: more => do
      let (t, rest) ← next more
      match t with
      | .name n =>
        if keywords.contains n then return (p, ts)
        else
          let _ ← next rest
          primaryRest place fuel { label := "attribute" } rest
      | _ => return (p, ts)
    | .mark "(" :: more => do
      let (t, rest) ← next more
      if t == .mark ")" then
        let _ ← next rest
        primaryRest place fuel (p.called false) rest
      else
        match ← attempt (arguments place.inner fuel none true more) with
        | some rest =>
          let _ ← next rest
          primaryRest place fuel (p.called true) rest
        | none => return (p, ts)
    | _ => .ok (p, ts)

/-- The arguments of a call and the bracket that closes it; `keyword` is the mark of the last one
that was given by name, and `first` says that there are none before. -/
def arguments (place : Place) :
    (fuel : Nat) → (keyword : Option String) → (first : Bool) → List Token → Match (List Token)
  | 0, _, _, _ => noMatch
  | fuel + 1, keyword, first, ts => do
    let (t, rest) ← next ts
    if t == .mark ")" && !first then return rest
    else if t == .mark "*" then
      let (_, rest) ← expression place fuel rest
      if keyword == some "**" then
        sayIf place "iterable argument unpacking follows keyword argument unpacking"
      else argumentsRest place fuel keyword rest
    else if t == .mark "**" then
      let (_, rest) ← expression place fuel rest
      argumentsRest place fuel (some "**") rest
    else
      match nameBefore? "=" ts with
      | some (_, more) =>
        let (_, rest) ← expression place fuel more
        if startsClause rest then sayIf place nameAssigned
        else argumentsRest place fuel (some "=") rest
      | none =>
        let start := ((nameBefore? ":=" ts).map (·.2)).getD ts
        let (p, rest) ← expression place fuel start
        if startsWith "=" rest then
          if constants.contains p.label then sayIf place s!"cannot assign to {p.label}"
          else
            sayIf place "expression cannot contain assignment, perhaps you meant \"==\"?"
        else if startsWith ":=" rest then noMatch
        else if startsClause rest then
          let rest ← clauses place fuel rest
          if first && startsWith ")" rest then return rest.tail
          else sayIf place "Generator expression must be parenthesized"
        else if keyword == some "**" then
          sayIf place "positional argument follows keyword argument unpacking"
        else if keyword == some "=" then
          sayIf place "positional argument follows keyword argument"
        else argumentsRest place fuel keyword rest

def argumentsRest (place : Place) :
    (fuel : Nat) → (keyword : Option String) → List Token → Match (List Token)
  | 0, _, _ => noMatch
  | fuel + 1, keyword, ts => do
    let (t, rest) ← next ts
    if t == .mark ")" then return rest
    else if t == .mark "," then arguments place fuel keyword false rest
    else noMatch

end

def wholePhrase (explain : Bool) (ts : List Token) : Match Phrase := do
  let place : Place := ⟨explain, false⟩
  let fuel := 16 * (ts.length + 2)
  let (first, rest) ← expression place fuel ts
  if startsWith "," rest then
    let (others, rest) ← expressions place fuel rest.length rest.tail
    ending rest
    return .tuple (first :: others)
  else
    ending rest
    return first
where
  expressions (place : Place) (fuel : Nat) : Nat → List Token → Match (Read (List Phrase))
    | 0, ts => .ok ([], ts)
    | n + 1, ts => do
      match ← attempt (expression place fuel ts) with
      | none => return ([], ts)
      | some (p, rest) =>
        if startsWith "," rest then
          let (others, rest) ← expressions place fuel n rest.tail
          return (p :: others, rest)
        else return ([p], rest)
  ending (ts : List Token) : Match PUnit := do
    let (t, _) ← next (ts.dropWhile (· == .lineEnd))
    match t with
    | .ending => return ()
    | .indent => say "unexpected indent"
    | _ => noMatch

end Apidoc.Console.Literal
