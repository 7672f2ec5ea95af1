import Apidoc.Proofs.Outcome
import Apidoc.Proofs.Xml.TagMarkup

/-!
What a written start tag says where nothing has been declared about it: its attributes are worked
through in order, each with its value as it was before it was escaped.
-/
namespace Apidoc.Xml

namespace TagSurvey

def addAll (survey : TagSurvey) (list : List (List Char × List Char)) : Except Reason TagSurvey :=
  list.foldlM (fun survey a => survey.add a.1 a.2) survey

theorem seen_add {survey survey' : TagSurvey} {label value : List Char}
    (added : survey.add label value = .ok survey') : survey'.seen = label :: survey.seen := by
  unfold add at added
  split at added
  · obtain ⟨scope, -, done⟩ := bind_eq_ok_iff.mp added
    cases done
    rfl
  · split at added
    · split at added
      · obtain ⟨scope, -, done⟩ := bind_eq_ok_iff.mp added
        cases done
        rfl
      · cases added
        rfl
    · cases added
      rfl

theorem addGiven_spelled {raws : List RawAttribute} {list : List (List Char × List Char)}
    (spell : List.Forall₂ Tag.Spells raws list) {survey survey' : TagSurvey}
    (distinct : (list.map (·.1)).Nodup) (fresh : ∀ a ∈ list, a.1 ∉ survey.seen)
    (added : survey.addAll list = .ok survey') (tag : List Char) :
    addGiven .blank [] tag survey raws = .ok survey' := by
  induction spell generalizing survey with
  | nil =>
    cases added
    rfl
  | @cons raw a raws list same spell ih =>
    obtain ⟨labelled, stand⟩ := same
    obtain ⟨next, first, others⟩ := bind_eq_ok_iff.mp added
    rw [List.map_cons, List.nodup_cons] at distinct
    have unseen : survey.seen.contains raw.label = false := by
      rw [labelled]
      simpa using fresh a List.mem_cons_self
    have value : valueText .blank [] raw.pieces = .ok a.2 := stand _ _
    have later : ∀ b ∈ list, b.1 ∉ next.seen := by
      intro b there
      rw [seen_add first]
      intro inside
      rcases List.mem_cons.mp inside with equal | seen
      · exact distinct.1 (equal ▸ List.mem_map_of_mem there)
      · exact fresh b (List.mem_cons_of_mem a there) seen
    have rest := ih distinct.2 later others
    have first : survey.add raw.label a.2 = .ok next := labelled ▸ first
    rw [addGiven, unseen]
    refine bind_eq_ok_iff.mpr ⟨a.2, value, ?_⟩
    exact bind_eq_ok_iff.mpr ⟨next, mapError_eq_ok_iff.mpr first, rest⟩

end TagSurvey

theorem resolve_spelled {raws : List RawAttribute} {list : List (List Char × List Char)}
    (spell : List.Forall₂ Tag.Spells raws list) (distinct : (list.map (·.1)).Nodup)
    {scope : Scope} {label : List Char} {survey : TagSurvey} {attributes : List Attribute}
    {tag : Name} (added : TagSurvey.addAll ⟨[], scope, []⟩ list = .ok survey)
    (expanded : expandAttributes survey.scope [] survey.kept = .ok attributes)
    (named : elementName survey.scope label = .ok tag) :
    Opening.resolve .blank [] scope label raws = .ok ⟨tag, attributes, survey.scope⟩ := by
  have given := TagSurvey.addGiven_spelled spell distinct (by simp) added label
  unfold Opening.resolve
  refine bind_eq_ok_iff.mpr ⟨survey, given, bind_eq_ok_iff.mpr ⟨survey, rfl, ?_⟩⟩
  refine bind_eq_ok_iff.mpr ⟨attributes, mapError_eq_ok_iff.mpr expanded, ?_⟩
  exact bind_eq_ok_iff.mpr ⟨tag, mapError_eq_ok_iff.mpr named, rfl⟩

end Apidoc.Xml
