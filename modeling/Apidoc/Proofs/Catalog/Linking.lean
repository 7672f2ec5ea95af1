import Apidoc.Catalog
import Apidoc.Proofs.MemberId
import Apidoc.Proofs.Ordered

/-!
What a linking plan amounts to when it is carried out. The plan goes through the entities one by one
and remembers the namespaces that it has implied; its outcome is told without that memory: each
entity is put where it belongs, and each namespace that is needed is added once.
-/
namespace Apidoc.Linking

def Home.holder? : Home String → Option String
  | .inside id => some id
  | .implied id => some id
  | _ => none

def Home.needed? : Home String → Option String
  | .implied id => some id
  | _ => none

def added (events : List (Event String)) : List String :=
  events.filterMap fun
    | .implied id => some id
    | _ => none

def placed (events : List (Event String)) : List (String × String) :=
  events.filterMap fun
    | .attached holder member => some (Catalog.holderId holder, member)
    | _ => none

def eventsFor (implied : List String) (row : Row String) : Home String → List (Event String)
  | .top => []
  | .unknown => [.undeclared row.id]
  | .inside container => [.attached (.given container) row.handle]
  | .implied id =>
    if id ∈ implied then [.attached (.implied id) row.handle]
    else [.implied id, .attached (.implied id) row.handle]

def impliedAfter (implied : List String) (home : Home String) : List String :=
  match home.needed? with
  | none => implied
  | some id => if id ∈ implied then implied else id :: implied

variable {rows rest : List (Row String)} {row : Row String} {implied : List String}
  {refusal : String → Option Stem.Fault} {events : List (Event String)}

/-- One step of a plan that has no fault: what is done with the first entity, then the plan for the
others. -/
theorem planFrom_cons {home : Home String} (known : homeOf rows row = .ok home)
    (planned : planFrom rows refusal implied (row :: rest) = (events, none)) :
    ∃ later, planFrom rows refusal (impliedAfter implied home) rest = (later, none) ∧
      events = eventsFor implied row home ++ later ∧
      ∀ id, home.needed? = some id → id ∉ implied → refusal id = none := by
  cases home with
  | top =>
    simp only [planFrom, known] at planned
    exact ⟨events, planned, rfl, by intro id needed; cases needed⟩
  | unknown =>
    simp only [planFrom, known, Prod.mk.injEq] at planned
    refine ⟨_, Prod.ext rfl planned.2, planned.1.symm, ?_⟩
    intro id needed
    cases needed
  | inside container =>
    simp only [planFrom, known, Prod.mk.injEq] at planned
    refine ⟨_, Prod.ext rfl planned.2, planned.1.symm, ?_⟩
    intro id needed
    cases needed
  | implied id =>
    simp only [planFrom, known, List.contains_iff_mem] at planned
    simp only [impliedAfter, Home.needed?, eventsFor]
    split at planned
    · next old =>
      simp only [Prod.mk.injEq] at planned
      refine ⟨_, Prod.ext rfl ?_, ?_, ?_⟩
      · simpa only [if_pos old] using planned.2
      · simpa only [if_pos old, List.singleton_append] using planned.1.symm
      · rintro _ ⟨⟩ fresh
        exact absurd old fresh
    · next fresh =>
      cases refused : refusal id with
      | some fault => simp [refused] at planned
      | none =>
        simp only [refused, Prod.mk.injEq] at planned
        refine ⟨_, Prod.ext rfl ?_, ?_, ?_⟩
        · simpa only [if_neg fresh] using planned.2
        · simpa only [if_neg fresh, List.cons_append, List.nil_append] using planned.1.symm
        · rintro _ ⟨⟩ -
          exact refused

theorem placed_append (a b : List (Event String)) : placed (a ++ b) = placed a ++ placed b :=
  List.filterMap_append

theorem added_append (a b : List (Event String)) : added (a ++ b) = added a ++ added b :=
  List.filterMap_append

theorem placed_eventsFor (implied : List String) (row : Row String) (home : Home String) :
    placed (eventsFor implied row home) = (home.holder?.map (·, row.handle)).toList := by
  cases home with
  | implied id =>
    simp only [eventsFor]
    split <;> rfl
  | _ => rfl

theorem added_eventsFor (implied : List String) (row : Row String) (home : Home String) :
    added (eventsFor implied row home) = home.needed?.toList.removeAll implied := by
  cases home with
  | implied id =>
    simp only [eventsFor, Home.needed?, Option.toList_some, List.cons_removeAll]
    by_cases old : id ∈ implied
    · simp [old, added]
    · simp [old, added]
  | _ => simp [eventsFor, added, Home.needed?]

variable {home : Row String → Home String}

/-- Every entity that has a container is put into it, in the order of the entities. -/
theorem placed_planFrom (known : ∀ row ∈ rest, homeOf rows row = .ok (home row))
    (planned : planFrom rows refusal implied rest = (events, none)) :
    placed events = rest.filterMap fun row => (home row).holder?.map (·, row.handle) := by
  induction rest generalizing implied events with
  | nil =>
    simp only [planFrom, Prod.mk.injEq] at planned
    rw [← planned.1]
    rfl
  | cons row rest ih =>
    have later : ∀ row ∈ rest, homeOf rows row = .ok (home row) := by
      intro r hr
      exact known r (List.mem_cons_of_mem row hr)
    obtain ⟨more, plannedLater, rfl, -⟩ := planFrom_cons (known row List.mem_cons_self) planned
    rw [placed_append, placed_eventsFor, ih later plannedLater, List.filterMap_cons]
    cases (home row).holder? <;> rfl

theorem removeAll_cons_eq (xs implied : List String) (id : String) :
    xs.removeAll (id :: implied) = (xs.removeAll implied).filter fun other => !other == id := by
  rw [List.removeAll_cons]
  simp only [List.removeAll, List.filter_filter]
  congr 1
  funext other
  rw [Bool.and_comm]

/-- Every namespace that is needed is added once, in the order in which they are first needed. -/
theorem added_planFrom (known : ∀ row ∈ rest, homeOf rows row = .ok (home row))
    (planned : planFrom rows refusal implied rest = (events, none)) :
    added events = ((rest.filterMap fun row => (home row).needed?).removeAll implied).eraseDups ∧
      ∀ id ∈ added events, refusal id = none := by
  induction rest generalizing implied events with
  | nil =>
    simp only [planFrom, Prod.mk.injEq] at planned
    rw [← planned.1]
    exact ⟨rfl, by intro id none; cases none⟩
  | cons row rest ih =>
    have later : ∀ row ∈ rest, homeOf rows row = .ok (home row) := by
      intro r hr
      exact known r (List.mem_cons_of_mem row hr)
    obtain ⟨more, plannedLater, rfl, stems⟩ := planFrom_cons (known row List.mem_cons_self) planned
    obtain ⟨same, allowed⟩ := ih later plannedLater
    rw [added_append, added_eventsFor]
    cases needed : (home row).needed? with
    | none =>
      simp only [impliedAfter, needed] at same
      simpa [List.filterMap_cons, needed, same] using allowed
    | some id =>
      simp only [impliedAfter, needed] at same
      simp only [List.filterMap_cons, needed, Option.toList_some, List.cons_removeAll,
        List.nil_removeAll, List.contains_eq_mem]
      by_cases old : id ∈ implied
      · simp only [old, if_true] at same
        simpa [old, same] using allowed
      · simp only [old, if_false, removeAll_cons_eq] at same
        simp only [old, decide_false, if_true, List.eraseDups_cons, same,
          List.singleton_append, true_and, List.mem_cons, forall_eq_or_imp]
        refine ⟨stems id needed old, ?_⟩
        intro other there
        exact allowed other (by rw [same]; exact there)

/-- A plan has no fault when every entity has a home and every namespace that is needed a stem. -/
theorem planFrom_no_fault (known : ∀ row ∈ rest, homeOf rows row = .ok (home row))
    (stems : ∀ row ∈ rest, ∀ id, (home row).needed? = some id → refusal id = none) :
    (planFrom rows refusal implied rest).2 = none := by
  induction rest generalizing implied with
  | nil => rfl
  | cons row rest ih =>
    have later : ∀ implied, (planFrom rows refusal implied rest).2 = none := by
      intro implied
      exact ih (fun r hr => known r (List.mem_cons_of_mem row hr))
        (fun r hr => stems r (List.mem_cons_of_mem row hr))
    have stem := stems row List.mem_cons_self
    simp only [planFrom, known row List.mem_cons_self]
    cases at_home : home row with
    | top => exact later implied
    | unknown => exact later implied
    | inside container => exact later implied
    | implied id =>
      have allowed : refusal id = none := stem id (by rw [at_home]; rfl)
      simp only [allowed]
      split
      · exact later implied
      · exact later (id :: implied)

end Apidoc.Linking

namespace Apidoc.Catalog

open Linking (added placed)

def addSpace (settings : Settings) (entities : Ordered String Entity) (id : String) :
    Ordered String Entity :=
  match entityFor settings .space id none with
  | .ok entity => entities.insert id entity
  | .error _ => entities

/-- Carrying out events adds their namespaces and their placements. -/
theorem foldl_carryOut (settings : Settings) (events : List (Linking.Event String)) (c : Catalog) :
    events.foldl (carryOut settings) c =
      ⟨c.assembly, (added events).foldl (addSpace settings) c.entities,
        c.placements ++ placed events⟩ := by
  induction events generalizing c with
  | nil => simp [added, placed]
  | cons event rest ih =>
    rw [List.foldl_cons, ih]
    cases event with
    | implied id =>
      simp only [carryOut, added, placed, List.filterMap_cons, List.foldl_cons, addSpace]
      cases entityFor settings .space id none <;> rfl
    | attached holder member => simp [carryOut, added, placed]
    | undeclared id => simp [carryOut, added, placed]

end Apidoc.Catalog
