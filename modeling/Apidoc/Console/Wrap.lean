import Apidoc.Text.Blank
import Apidoc.Text.Cluster

/-!
Putting text on lines of a given width. Lines break between words; a word that no line can hold is
cut into pieces where `fold` allows it.
-/
namespace Apidoc.Console

open Text (isBlank cells Cluster)

/-- The parts of a line between tabs, each tab as spaces up to the next multiple of eight cells,
when `column` cells stand before them. -/
def expandParts (column : Nat) : List (List Char) → List Char
  | [] => []
  | [part] => part
  | part :: rest =>
    let start := part ++ [' ']
    let column := column + cells start
    let spaces := (8 - column % 8) % 8
    start ++ List.replicate spaces ' ' ++ expandParts (column + spaces) rest

def expandTabs (line : List Char) : List Char :=
  expandParts 0 (Text.splitAtEach (· == '\t') line)

inductive WordPart where
  | before
  | word
  | after
  deriving DecidableEq

/-- The words of the rest of a line, each with the white space after it, and the first with the
white space before it; `held` is what has been read of the current one, in reverse. White space
without a word is none. -/
def wordsFrom (part : WordPart) (held : List Char) : List Char → List (List Char)
  | [] => if part = .before then [] else [held.reverse]
  | c :: rest =>
    match part, isBlank c with
    | .before, true => wordsFrom .before (c :: held) rest
    | .word, true => wordsFrom .after (c :: held) rest
    | .after, true => wordsFrom .after (c :: held) rest
    | .after, false => held.reverse :: wordsFrom .word [c] rest
    | _, false => wordsFrom .word (c :: held) rest

def trimEnd (s : List Char) : List Char :=
  (s.reverse.dropWhile isBlank).reverse

/-- Puts clusters together to pieces of at most `width` cells, after a piece that is not finished:
what it holds, last first, and the cells it takes. A cluster wider than that is a piece of its
own. -/
def chopFrom (width : Nat) (held : List Cluster) (used : Nat) :
    List Cluster → List (List Char)
  | [] => [Cluster.text held.reverse]
  | c :: rest =>
    if used + c.cells > width then
      Cluster.text held.reverse :: chopFrom width [c] c.cells rest
    else chopFrom width (c :: held) (used + c.cells) rest

def chop (width : Nat) (s : List Char) : List (List Char) :=
  chopFrom width [] 0 (Cluster.split s)

/-- Lines being filled: those that are full, last first; the open one, in pieces, last first; and
the cells that its words take. -/
structure Filling where
  full : List (List Char)
  line : List (List Char)
  used : Nat

namespace Filling

def text (f : Filling) : List Char :=
  f.line.reverse.flatten

/-- Ends the open line, unless nothing is on it and no line is full. -/
def close (f : Filling) : Filling :=
  if f.full.isEmpty && f.text.isEmpty then f else ⟨f.text :: f.full, [], 0⟩

def add (f : Filling) (piece : List Char) : Filling :=
  ⟨f.full, piece :: f.line, f.used + cells piece⟩

/-- Puts each of some pieces on a line of its own, the last of which stays open. -/
def addPieces (f : Filling) : List (List Char) → Filling
  | [] => f
  | piece :: rest => addPieces (f.close.add piece) rest

/-- Adds a word: to the open line if it fits there, else to the next, or cut into pieces if no
line can hold it. White space at its end need not fit. -/
def addWord (width : Nat) (fold : Bool) (f : Filling) (word : List Char) : Filling :=
  let length := cells (trimEnd word)
  if f.used + length ≤ width then f.add word
  else if length > width && fold then f.addPieces (chop width word)
  else f.close.add word

def lines (f : Filling) : List (List Char) :=
  (f.text :: f.full).reverse

end Filling

def breakLine (width : Nat) (fold : Bool) (line : List Char) : List (List Char) :=
  match wordsFrom .before [] line with
  | [] => [line]
  | words => (words.foldl (Filling.addWord width fold) ⟨[], [], 0⟩).lines

def cropEnd (width : Nat) (line : List Char) : List Char :=
  let blanks := line.length - (trimEnd line).length
  line.take (line.length - min blanks (line.length - width))

def fittedFrom (width : Nat) : List Cluster → List Char
  | [] => List.replicate width ' '
  | c :: rest =>
    if c.cells > width then List.replicate width ' '
    else c.chars ++ fittedFrom (width - c.cells) rest

def fitted (width : Nat) (s : List Char) : List Char :=
  fittedFrom width (Cluster.split s)

/-- A line cut to `width` cells; where it is not to be folded, an ellipsis marks the cut. -/
def truncate (width : Nat) (fold : Bool) (line : List Char) : List Char :=
  if cells line ≤ width then line
  else if fold then fitted width line
  else fitted (width - 1) line ++ ['…']

def wrap (width : Nat) (fold : Bool) (text : List Char) : List (List Char) :=
  (Text.splitAtEach (· == '\n') text).flatMap fun line =>
    (breakLine width fold (expandTabs line)).map fun line =>
      truncate width fold (cropEnd width line)

def padded (width : Nat) (line : List Char) : List Char :=
  line ++ List.replicate (width - cells line) ' '

def centred (width : Nat) (fill : Char) (line : List Char) : List Char :=
  let space := width - cells line
  List.replicate (space / 2) fill ++ line ++ List.replicate (space - space / 2) fill

end Apidoc.Console
