/-!
White space, and the two cuts that depend on it: `trim` drops it from both ends of a text, and
`words` are the stretches between it.
-/
namespace Apidoc.Text

/-- The white space characters: the ASCII controls from tab to carriage return, the four separator
controls, the space, next line, and the space and line separators of Unicode. The zero-width space
and the byte order mark are not among them. -/
def isBlank (c : Char) : Bool :=
  let n := c.toNat
  (0x09 ≤ n && n ≤ 0x0D) || (0x1C ≤ n && n ≤ 0x20) || n == 0x85 || n == 0xA0 || n == 0x1680
    || (0x2000 ≤ n && n ≤ 0x200A) || n == 0x2028 || n == 0x2029 || n == 0x202F || n == 0x205F
    || n == 0x3000

def stripEnds (drop : Char → Bool) (s : List Char) : List Char :=
  ((s.dropWhile drop).reverse.dropWhile drop).reverse

def trim (s : String) : String :=
  String.ofList (stripEnds isBlank s.toList)

/-- The pieces of `s` between the characters for which `sep` holds; two such characters in a row
enclose an empty piece. -/
def splitAtEach (sep : Char → Bool) : List Char → List (List Char)
  | [] => [[]]
  | c :: rest =>
    if sep c then [] :: splitAtEach sep rest
    else
      match splitAtEach sep rest with
      | [] => [[c]]
      | piece :: pieces => (c :: piece) :: pieces

/-- The non-empty pieces of `s` between the characters for which `sep` holds. -/
def piecesBetween (sep : Char → Bool) (s : List Char) : List (List Char) :=
  (splitAtEach sep s).filter (· ≠ [])

def words (s : List Char) : List (List Char) :=
  piecesBetween isBlank s

end Apidoc.Text
