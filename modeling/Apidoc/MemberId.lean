/-!
Member ids such as `M:Acme.Widget.Spin(System.Int32)`: a letter for the kind of member, a colon,
the dotted full name, and for some members a parameter list.

`MemberId.split` cuts an id into these parts, `declaringName` drops the last segment of a full
name, and `isInsideSome` asks whether a name lies below one of a set of names.
-/
namespace Apidoc

/-- The text before the first `mark`, and the text after it if there is one. -/
def cutAtFirst (mark : Char) (s : List Char) : List Char × Option (List Char) :=
  (s.takeWhile (· ≠ mark), (s.dropWhile (· ≠ mark)).tail?)

/-- The text before the last `mark` if there is one, and the text after it. -/
def cutAtLast (mark : Char) (s : List Char) : Option (List Char) × List Char :=
  let (last, head) := cutAtFirst mark s.reverse
  (head.map List.reverse, last.reverse)

namespace MemberId

structure Parts where
  letter : String
  fullName : String
  name : String
  deriving DecidableEq, Repr

/-- The parts of an id. An id without a colon has no letter and is its own name, unparsed. -/
def split (id : String) : Parts :=
  match cutAtFirst ':' id.toList with
  | (_, none) => ⟨"", id, id⟩
  | (letter, some rest) =>
    let fullName := (cutAtFirst '(' rest).1
    ⟨String.ofList letter, String.ofList fullName, String.ofList (cutAtLast '.' fullName).2⟩

/-- The full name of what a member is declared in: all but the last segment of its own full name,
none when that has a single segment. -/
def declaringName (fullName : String) : Option String :=
  (cutAtLast '.' fullName.toList).1.map String.ofList

/-- What stands before the last dot of a text is shorter than the text. -/
theorem length_lt_of_cutAtLast {s head : List Char} (cut : (cutAtLast '.' s).1 = some head) :
    head.length < s.length := by
  simp only [cutAtLast, cutAtFirst, Option.map_eq_some_iff] at cut
  obtain ⟨tail, found, rfl⟩ := cut
  have short := (List.dropWhile_sublist (fun c => decide (c ≠ '.')) (l := s.reverse)).length_le
  cases drop : List.dropWhile (fun c => decide (c ≠ '.')) s.reverse with
  | nil => simp only [drop, List.tail?_nil, reduceCtorEq] at found
  | cons c rest =>
    simp only [drop, List.tail?_cons, Option.some.injEq] at found
    subst found
    simp only [drop, List.length_cons, List.length_reverse] at short ⊢
    omega

def ancestors (name : List Char) : List (List Char) :=
  match _cut : (cutAtLast '.' name).1 with
  | none => []
  | some head => head :: ancestors head
termination_by name.length
decreasing_by exact length_lt_of_cutAtLast _cut

def isInsideSome (names : List String) (name : String) : Bool :=
  (ancestors name.toList).any fun head => names.contains (String.ofList head)

end MemberId

end Apidoc
