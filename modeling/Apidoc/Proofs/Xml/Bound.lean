import Mathlib.Data.List.Perm.Basic
import Apidoc.Proofs.Xml.Opening
import Apidoc.Proofs.Xml.Prefixes

/-!
Where the prefixes of a table are declared, names that are written with them mean what they meant
before, and the tag of an element says what the element is.
-/
namespace Apidoc.Xml

structure Scope.Binds (scope : Scope) (prefixes : Prefixes) : Prop where
  default : scope.find? [] = none
  xml : scope.find? "xml".toList = some xmlNamespace
  each : ∀ e ∈ prefixes, scope.find? e.2 = some e.1

variable {prefixes : Prefixes} {scope : Scope} {name : Name}

theorem qualify_cases (sound : prefixes.Sound) (covers : prefixes.Covers name) :
    (name.space = none ∧ prefixes.qualify name = name.label) ∨
      ∃ front space, name.space = some space ∧
        prefixes.qualify name = front ++ ':' :: name.label ∧ isName front = true ∧
        front ≠ xmlnsPrefix ∧ ∀ scope : Scope, scope.Binds prefixes →
          scope.find? front = some space := by
  unfold Prefixes.qualify
  split
  · next plain => exact Or.inl ⟨plain, rfl⟩
  · next space spaced =>
    split_ifs with isXml
    · have isXml : space = xmlNamespace := beq_iff_eq.mp isXml
      subst isXml
      exact Or.inr ⟨"xml".toList, xmlNamespace, spaced, rfl, by decide, by decide,
        fun scope binds => binds.xml⟩
    · rcases covers space spaced with xml | ⟨label, there⟩
      · simp [xml] at isXml
      · rw [lookup_of_mem sound.spaces there]
        obtain ⟨named, free, -⟩ := Prefixes.label_spec sound there
        exact Or.inr ⟨label, space, spaced, rfl, named, free, fun scope binds => binds.each _ there⟩

theorem elementName_qualify (sound : prefixes.Sound) (binds : scope.Binds prefixes)
    (covers : prefixes.Covers name) (chars : ∀ c ∈ name.label, isNameChar c = true) :
    elementName scope (prefixes.qualify name) = .ok name := by
  obtain ⟨space, label⟩ := name
  rcases qualify_cases sound covers with ⟨⟨⟩, written⟩ | ⟨front, _, ⟨⟩, written, named, -, found⟩
  · rw [written, elementName, splitLabel_plain (colon_not_mem chars), binds.default]
  · rw [written, elementName, splitLabel_append (colon_not_mem (nameChars_of_isName named))]
    simp only [found scope binds]

theorem attributeName_qualify (sound : prefixes.Sound) (binds : scope.Binds prefixes)
    (covers : prefixes.Covers name) (chars : ∀ c ∈ name.label, isNameChar c = true) :
    attributeName scope (prefixes.qualify name) = .ok name := by
  have whole := elementName_qualify sound binds covers chars
  obtain ⟨space, label⟩ := name
  rcases qualify_cases sound covers with ⟨⟨⟩, written⟩ | ⟨front, _, ⟨⟩, written, named, -, -⟩
  · rw [written, attributeName, splitLabel_plain (colon_not_mem chars)]
  · rw [written] at whole ⊢
    rw [attributeName, splitLabel_append (colon_not_mem (nameChars_of_isName named))]
    exact whole

theorem isLabel_qualify (sound : prefixes.Sound) (covers : prefixes.Covers name)
    (named : isName name.label = true) : IsLabel (prefixes.qualify name) := by
  rcases qualify_cases sound covers with ⟨-, written⟩ | ⟨front, _, -, written, first, -, -⟩
  · rw [written]
    exact Or.inl named
  · rw [written]
    exact Or.inr ⟨front, name.label, rfl, first, named⟩

def IsDeclaration (label : List Char) : Prop :=
  label = xmlnsPrefix ∨ (splitLabel label).1 = some xmlnsPrefix

theorem qualify_ordinary (sound : prefixes.Sound) {a : Attribute} (own : a.Sound)
    (covers : prefixes.Covers a.name) : ¬IsDeclaration (prefixes.qualify a.name) := by
  rcases qualify_cases sound covers with ⟨plain, written⟩ | ⟨front, _, -, written, named, free, -⟩
  · rw [written, IsDeclaration, splitLabel_plain (colon_not_mem own.chars)]
    simpa using (own.plain plain).2
  · rw [written, IsDeclaration, splitLabel_append (colon_not_mem (nameChars_of_isName named))]
    have colon : ':' ∉ xmlnsPrefix := by decide
    rintro (whole | same)
    · exact colon (whole ▸ by simp)
    · exact free (Option.some.inj same)

namespace TagSurvey

theorem add_ordinary {label : List Char} (ordinary : ¬IsDeclaration label) (survey : TagSurvey)
    (value : List Char) : survey.add label value =
      .ok ⟨label :: survey.seen, survey.scope, survey.kept ++ [(label, value)]⟩ := by
  obtain ⟨other, unlike⟩ := not_or.mp ordinary
  have other : (label == xmlnsPrefix) = false := beq_eq_false_iff_ne.mpr other
  rw [add, other]
  cases split : splitLabel label with
  | mk front rest =>
    cases front with
    | none => rfl
    | some front =>
      have apart : (front == xmlnsPrefix) = false := by
        refine beq_eq_false_iff_ne.mpr ?_
        rintro rfl
        exact unlike (by rw [split])
      simp only [apart]
      rfl

theorem addAll_ordinary {list : List (List Char × List Char)}
    (ordinary : ∀ a ∈ list, ¬IsDeclaration a.1) (survey : TagSurvey) :
    survey.addAll list =
      .ok ⟨(list.map (·.1)).reverse ++ survey.seen, survey.scope, survey.kept ++ list⟩ := by
  induction list generalizing survey with
  | nil =>
    rw [List.append_nil]
    rfl
  | cons a list ih =>
    have later := ih (fun b there => ordinary b (List.mem_cons_of_mem a there))
    refine bind_eq_ok_iff.mpr ⟨_, add_ordinary (ordinary a List.mem_cons_self) survey a.2, ?_⟩
    refine (later _).trans ?_
    simp

theorem add_declaration {label space : List Char} (free : label ≠ xmlnsPrefix)
    (unlike : label ≠ "xml".toList) (declarable : SoundSpace space)
    (other : space ≠ xmlNamespace) (survey : TagSurvey) :
    survey.add ("xmlns:".toList ++ label) space =
      .ok ⟨("xmlns:".toList ++ label) :: survey.seen, (label, space) :: survey.scope,
        survey.kept⟩ := by
  have colon : ':' ∉ xmlnsPrefix := by decide
  have written : "xmlns:".toList ++ label = xmlnsPrefix ++ ':' :: label := rfl
  have longer : (xmlnsPrefix ++ ':' :: label == xmlnsPrefix) = false := by
    refine beq_eq_false_iff_ne.mpr ?_
    intro same
    exact colon (same ▸ by simp)
  have bound : survey.scope.bind label space = .ok ((label, space) :: survey.scope) := by
    simp [Scope.bind, declarable.nonempty, free, declarable.braceless, other, declarable.open_]
    exact unlike
  rw [written, add, longer, splitLabel_append colon]
  simp only [BEq.rfl]
  exact bind_eq_ok_iff.mpr ⟨_, bound, rfl⟩

def declaring (entries : List (List Char × List Char)) : List (List Char × List Char) :=
  entries.map fun e => ("xmlns:".toList ++ e.2, e.1)

theorem addAll_declaring (sound : prefixes.Sound) {entries : List (List Char × List Char)}
    (listed : entries ⊆ prefixes) (survey : TagSurvey) :
    survey.addAll (declaring entries) =
      .ok ⟨((declaring entries).map (·.1)).reverse ++ survey.seen,
        (entries.map fun e => (e.2, e.1)).reverse ++ survey.scope, survey.kept⟩ := by
  induction entries generalizing survey with
  | nil => rfl
  | cons e entries ih =>
    obtain ⟨first, others⟩ := List.cons_subset.mp listed
    obtain ⟨-, free, unlike⟩ := Prefixes.label_spec sound first
    obtain ⟨declarable, other⟩ := sound.declarable e first
    refine bind_eq_ok_iff.mpr
      ⟨_, add_declaration free unlike declarable other survey, ?_⟩
    refine (ih others _).trans ?_
    simp [declaring]

theorem addAll_append {survey next : TagSurvey} {a : List (List Char × List Char)}
    (first : survey.addAll a = .ok next) (b : List (List Char × List Char)) :
    survey.addAll (a ++ b) = next.addAll b := by
  rw [addAll, List.foldlM_append]
  rw [addAll] at first
  rw [first]
  rfl

end TagSurvey

theorem expandAttributes_written (sound : prefixes.Sound) (binds : scope.Binds prefixes)
    {attributes : List Attribute} (each : ∀ a ∈ attributes, a.Sound ∧ prefixes.Covers a.name)
    (distinct : (attributes.map (·.name)).Nodup) {seen : List Name}
    (fresh : ∀ a ∈ attributes, a.name ∉ seen) :
    expandAttributes scope seen (writtenAttributes prefixes attributes) = .ok attributes := by
  induction attributes generalizing seen with
  | nil => rfl
  | cons a attributes ih =>
    rw [List.map_cons, List.nodup_cons] at distinct
    obtain ⟨own, covers⟩ := each a List.mem_cons_self
    have later : ∀ b ∈ attributes, b.name ∉ a.name :: seen := by
      intro b there inside
      rcases List.mem_cons.mp inside with same | old
      · exact distinct.1 (same ▸ List.mem_map_of_mem there)
      · exact fresh b (List.mem_cons_of_mem a there) old
    have unseen : seen.contains a.name = false := by simpa using fresh a List.mem_cons_self
    refine bind_eq_ok_iff.mpr ⟨a.name, attributeName_qualify sound binds covers own.chars, ?_⟩
    simp only [unseen]
    exact bind_eq_ok_iff.mpr
      ⟨attributes, ih (fun b there => each b (List.mem_cons_of_mem a there)) distinct.2 later, rfl⟩

theorem nodup_written (sound : prefixes.Sound) (binds : scope.Binds prefixes)
    {attributes : List Attribute} (each : ∀ a ∈ attributes, a.Sound ∧ prefixes.Covers a.name)
    (distinct : (attributes.map (·.name)).Nodup) :
    ((writtenAttributes prefixes attributes).map (·.1)).Nodup := by
  have expanded : ((writtenAttributes prefixes attributes).map (·.1)).map (attributeName scope) =
      (attributes.map (·.name)).map .ok := by
    rw [writtenAttributes, List.map_map, List.map_map, List.map_map]
    refine List.map_congr_left ?_
    intro a there
    obtain ⟨own, covers⟩ := each a there
    exact attributeName_qualify sound binds covers own.chars
  refine List.Nodup.of_map (attributeName scope) ?_
  rw [expanded]
  exact distinct.map (fun _ _ same => Except.ok.inj same)

def Prefixes.sorted (prefixes : Prefixes) : Prefixes :=
  prefixes.mergeSort fun a b => decide (String.ofList a.2 ≤ String.ofList b.2)

theorem Prefixes.sorted_perm (prefixes : Prefixes) : prefixes.sorted.Perm prefixes :=
  List.mergeSort_perm _ _

def Prefixes.declared (prefixes : Prefixes) : Scope :=
  (prefixes.sorted.map fun e => (e.2, e.1)).reverse ++ .outermost

theorem find?_of_lookup {label space : List Char} (found : scope.lookup label = some space)
    (nonempty : space ≠ []) : scope.find? label = some space := by
  unfold Scope.find?
  split
  · next empty =>
    rw [found, Option.some.injEq] at empty
    exact absurd empty nonempty
  · exact found

/-- A prefix that is not in the table means what it meant outside. -/
theorem find?_declared {label : List Char} (absent : ∀ e ∈ prefixes, e.2 ≠ label) :
    prefixes.declared.find? label = Scope.outermost.find? label := by
  have none_here : ((prefixes.sorted.map fun e => (e.2, e.1)).reverse).lookup label = none := by
    rw [List.lookup_eq_none_iff]
    intro p there
    obtain ⟨e, listed, rfl⟩ := List.mem_map.mp (List.mem_reverse.mp there)
    have apart := absent e (prefixes.sorted_perm.mem_iff.mp listed)
    simpa using Ne.symm apart
  rw [Scope.find?, Scope.find?, Prefixes.declared, List.lookup_append, none_here, Option.none_or]

theorem binds_declared (sound : prefixes.Sound) : prefixes.declared.Binds prefixes := by
  refine ⟨?_, ?_, ?_⟩
  · refine (find?_declared ?_).trans rfl
    intro e there
    obtain ⟨c, rest, same, -⟩ := exists_of_isName (Prefixes.label_spec sound there).1
    simp [same]
  · refine (find?_declared ?_).trans rfl
    intro e there
    exact (Prefixes.label_spec sound there).2.2
  · intro e there
    have labels : ((prefixes.sorted.map fun e => (e.2, e.1)).reverse.map (·.1)).Nodup := by
      rw [List.map_reverse, List.nodup_reverse, List.map_map]
      exact (prefixes.sorted_perm.map (·.2)).nodup_iff.mpr sound.labels
    have listed : (e.2, e.1) ∈ (prefixes.sorted.map fun e => (e.2, e.1)).reverse :=
      List.mem_reverse.mpr (List.mem_map.mpr ⟨e, prefixes.sorted_perm.mem_iff.mpr there, rfl⟩)
    refine find?_of_lookup ?_ (sound.declarable e there).1.nonempty
    rw [Prefixes.declared, List.lookup_append, lookup_of_mem labels listed, Option.some_or]

section
variable {tag : Name} {attributes : List Attribute} {raws : List RawAttribute}

theorem SoundTag.covered (tagged : SoundTag tag attributes)
    (covers : prefixes.CoversTag tag attributes) :
    ∀ a ∈ attributes, a.Sound ∧ prefixes.Covers a.name := by
  intro a there
  exact ⟨tagged.each a there, covers.2 a there⟩

theorem written_ordinary (sound : prefixes.Sound)
    (each : ∀ a ∈ attributes, a.Sound ∧ prefixes.Covers a.name) :
    ∀ w ∈ writtenAttributes prefixes attributes, ¬IsDeclaration w.1 := by
  intro w there
  obtain ⟨a, listed, rfl⟩ := List.mem_map.mp there
  exact qualify_ordinary sound (each a listed).1 (each a listed).2

theorem isDeclaration_append (label : List Char) : IsDeclaration ("xmlns:".toList ++ label) := by
  have split : splitLabel (xmlnsPrefix ++ ':' :: label) = (some xmlnsPrefix, label) :=
    splitLabel_append (by decide) label
  exact Or.inr (congrArg (·.1) split)

theorem nodup_declarations (sound : prefixes.Sound) :
    (prefixes.declarations.map (·.1)).Nodup := by
  have labels : (prefixes.sorted.map (·.2)).Nodup :=
    (prefixes.sorted_perm.map (·.2)).nodup_iff.mpr sound.labels
  have written : prefixes.declarations.map (·.1) =
      (prefixes.sorted.map (·.2)).map ("xmlns:".toList ++ ·) := by
    rw [List.map_map]
    exact List.map_map
  rw [written]
  exact labels.map (fun _ _ same => List.append_cancel_left same)

/-- Inside an element that has declared the prefixes a tag says what the element is. -/
theorem resolve_nested (sound : prefixes.Sound) (binds : scope.Binds prefixes)
    (tagged : SoundTag tag attributes) (covers : prefixes.CoversTag tag attributes)
    (spell : List.Forall₂ Tag.Spells raws (writtenAttributes prefixes attributes)) :
    Opening.resolve .blank [] scope (prefixes.qualify tag) raws =
      .ok ⟨tag, attributes, scope⟩ := by
  have each := tagged.covered covers
  have added := TagSurvey.addAll_ordinary (written_ordinary sound each) ⟨[], scope, []⟩
  have expanded : expandAttributes scope [] (writtenAttributes prefixes attributes) =
      .ok attributes := expandAttributes_written sound binds each tagged.distinct (by simp)
  exact resolve_spelled spell (nodup_written sound binds each tagged.distinct) added expanded
    (elementName_qualify sound binds covers.1 (nameChars_of_isName tagged.label))

/-- The tag of an element that declares the prefixes says what the element is. -/
theorem resolve_declaring (sound : prefixes.Sound)
    (tagged : SoundTag tag attributes) (covers : prefixes.CoversTag tag attributes)
    (spell : List.Forall₂ Tag.Spells raws
      (prefixes.declarations ++ writtenAttributes prefixes attributes)) :
    Opening.resolve .blank [] .outermost (prefixes.qualify tag) raws =
      .ok ⟨tag, attributes, prefixes.declared⟩ := by
  have binds := binds_declared sound
  have each := tagged.covered covers
  have distinct : ((prefixes.declarations ++ writtenAttributes prefixes attributes).map
      (·.1)).Nodup := by
    rw [List.map_append]
    refine (nodup_declarations sound).append (nodup_written sound binds each tagged.distinct) ?_
    intro label declared written
    obtain ⟨w, there, rfl⟩ := List.mem_map.mp written
    obtain ⟨e, -, same⟩ := List.mem_map.mp (List.map_map ▸ declared)
    exact written_ordinary sound each w there (same ▸ isDeclaration_append e.2)
  have added := (TagSurvey.addAll_append (TagSurvey.addAll_declaring sound
    prefixes.sorted_perm.subset ⟨[], .outermost, []⟩) _).trans
      (TagSurvey.addAll_ordinary (written_ordinary sound each) _)
  have expanded : expandAttributes prefixes.declared [] (writtenAttributes prefixes attributes) =
      .ok attributes := expandAttributes_written sound binds each tagged.distinct (by simp)
  exact resolve_spelled spell distinct added expanded
    (elementName_qualify sound binds covers.1 (nameChars_of_isName tagged.label))

end

end Apidoc.Xml
