import Apidoc.Text.Cells

/-!
Clusters: the parts of a text between which a line may be cut. A cluster is a character that has a
width, with the characters after it that have none and the pictures that are joined to it.

No character is lost: the clusters of a text hold its characters in order.
-/
namespace Apidoc.Text

structure Cluster where
  chars : List Char
  cells : Nat
  deriving DecidableEq, Repr

namespace Cluster

def extend (cluster : Cluster) (c : Char) (more : Nat) : Cluster :=
  ⟨cluster.chars ++ [c], cluster.cells + more⟩

/-- The clusters of the rest of a text after an open one. A character after a joiner belongs to
the open cluster whatever it is; `last` is the last character with a width that the selector may
still turn into a picture. -/
def splitFrom (current : Cluster) (joined : Bool) (last : Option Char) :
    List Char → List Cluster
  | [] => [current]
  | c :: rest =>
    if joined then splitFrom (current.extend c 0) false last rest
    else if c = joiner then splitFrom (current.extend c 0) true last rest
    else if c = pictureSelector then
      if last.any picturable.has then splitFrom (current.extend c 1) false none rest
      else splitFrom (current.extend c 0) false last rest
    else if cellWidth c = 0 then splitFrom (current.extend c 0) false last rest
    else current :: splitFrom ⟨[c], cellWidth c⟩ false (some c) rest

def split : List Char → List Cluster
  | [] => []
  | c :: rest =>
    let width := cellWidth c
    splitFrom ⟨[c], width⟩ false (if width = 0 then none else some c) rest

def text (clusters : List Cluster) : List Char :=
  clusters.flatMap (·.chars)

end Cluster

end Apidoc.Text
