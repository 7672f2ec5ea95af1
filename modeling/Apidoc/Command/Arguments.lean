/-!
The words of a command line. Options may stand anywhere after the command; `--` ends them.
-/
namespace Apidoc.Command

inductive Choice where
  | kind
  | config
  | verbose
  | quiet
  deriving DecidableEq, Repr

namespace Choice

def takesValue : Choice → Bool
  | kind => true
  | config => true
  | _ => false

def long : Choice → String
  | kind => "--kind"
  | config => "--config"
  | verbose => "--verbose"
  | quiet => "--quiet"

def letter : Choice → Char
  | kind => 'k'
  | config => 'c'
  | verbose => 'v'
  | quiet => 'q'

end Choice

/-- What has been said on a command line; of the options, the last one comes first. -/
structure Words where
  plain : List String := []
  options : List (Choice × String) := []
  deriving DecidableEq, Repr

namespace Words

def addPlain (w : Words) (word : String) : Words :=
  { w with plain := w.plain ++ [word] }

def addOption (w : Words) (choice : Choice) (value : String) : Words :=
  { w with options := (choice, value) :: w.options }

def value? (w : Words) (choice : Choice) : Option String :=
  w.options.lookup choice

def given (w : Words) (choice : Choice) : Bool :=
  (w.value? choice).isSome

end Words

inductive Letters where
  | done (words : Words)
  | wants (words : Words) (choice : Choice)

/-- Reads the letters after a dash; an option that has a value takes the rest of the letters for
it. -/
def readLetters (allowed : List Choice) (words : Words) : List Char → Option Letters
  | [] => some (.done words)
  | c :: rest =>
    match allowed.find? (·.letter == c) with
    | none => none
    | some choice =>
      if choice.takesValue then
        if rest.isEmpty then some (.wants words choice)
        else some (.done (words.addOption choice (String.ofList rest)))
      else readLetters allowed (words.addOption choice "") rest

def readOption (allowed : List Choice) (words : Words) (word : String) : Option Letters :=
  let name := word.toList.takeWhile (· ≠ '=')
  let value := (word.toList.dropWhile (· ≠ '=')).tail?
  match allowed.find? (·.long.toList == name), value with
  | some choice, some value =>
    if choice.takesValue then some (.done (words.addOption choice (String.ofList value))) else none
  | some choice, none =>
    if choice.takesValue then some (.wants words choice)
    else some (.done (words.addOption choice ""))
  | none, _ =>
    if "--".toList.isPrefixOf word.toList then none
    else readLetters allowed words (word.toList.drop 1)

/-- Reads words; `wanted` is the option whose value comes next. Without an answer they are not
understood. -/
def readWords (allowed : List Choice) (words : Words) (wanted : Option Choice) :
    List String → Option Words
  | [] => if wanted.isSome then none else some words
  | word :: rest =>
    match wanted with
    | some choice => readWords allowed (words.addOption choice word) none rest
    | none =>
      if word = "--" then some { words with plain := words.plain ++ rest }
      else if "-".toList.isPrefixOf word.toList && word.length > 1 then
        match readOption allowed words word with
        | none => none
        | some (.done words) => readWords allowed words none rest
        | some (.wants words choice) => readWords allowed words (some choice) rest
      else readWords allowed (words.addPlain word) none rest

end Apidoc.Command
