/-!
Maps that keep the order in which their keys were first put in. Putting in a key again changes its
value and not its place.
-/
namespace Apidoc

abbrev Ordered (κ ν : Type) := List (κ × ν)

namespace Ordered

variable {κ ν : Type} [DecidableEq κ]

/-- Puts in a key: the place of an equal one is kept, a new one goes to the end. -/
def insert (m : Ordered κ ν) (key : κ) (value : ν) : Ordered κ ν :=
  match m with
  | [] => [(key, value)]
  | (k, v) :: rest => if k = key then (k, value) :: rest else (k, v) :: insert rest key value

def find? (m : Ordered κ ν) (key : κ) : Option ν :=
  match m with
  | [] => none
  | (k, v) :: rest => if k = key then some v else find? rest key

def has (m : Ordered κ ν) (key : κ) : Bool :=
  (find? m key).isSome

def merge (m other : Ordered κ ν) : Ordered κ ν :=
  other.foldl (fun m entry => insert m entry.1 entry.2) m

/-- The map that a list of keys and values gives; the last value of a key stands. -/
def ofList (entries : List (κ × ν)) : Ordered κ ν :=
  merge [] entries

omit [DecidableEq κ] in
def keys (m : Ordered κ ν) : List κ :=
  m.map Prod.fst

omit [DecidableEq κ] in
def values (m : Ordered κ ν) : List ν :=
  m.map Prod.snd

theorem find?_insert (m : Ordered κ ν) (key other : κ) (value : ν) :
    find? (insert m key value) other = if key = other then some value else find? m other := by
  induction m with
  | nil => rfl
  | cons entry rest ih =>
    simp only [insert]
    split
    · next same => subst same; simp only [find?]; split <;> rfl
    · next apart =>
      simp only [find?, ih]
      split
      · next found => rw [if_neg (fun eq => apart (found.trans eq.symm))]
      · rfl

theorem keys_insert (m : Ordered κ ν) (key : κ) (value : ν) :
    keys (insert m key value) = if key ∈ keys m then keys m else keys m ++ [key] := by
  induction m with
  | nil => rfl
  | cons entry rest ih =>
    simp only [insert]
    split
    · next same => subst same; simp [keys]
    · next apart =>
      have other : ¬key = entry.1 := fun eq => apart eq.symm
      simp only [keys, List.map_cons, List.mem_cons, other, false_or] at ih ⊢
      rw [ih]
      by_cases there : key ∈ List.map Prod.fst rest
      · simp only [there, if_true]
      · simp only [there, if_false, List.cons_append]

end Ordered

end Apidoc
