import Mathlib.Data.List.Nodup
import Apidoc.Proofs.Xml.Declared

/-!
What start tags come to. The names they give belong to namespaces that can be declared, the
attributes of one tag have different names, and all characters are ones that a document may hold.
-/
namespace Apidoc.Xml

structure SoundSpace (space : List Char) : Prop where
  nonempty : space ≠ []
  open_ : space ≠ xmlnsNamespace
  braceless : '\x7d' ∉ space
  legal : AllLegal space

/-- An attribute that an element may have. The declaration of an attribute can give it a name that
does not begin as one. -/
structure Attribute.Sound (a : Attribute) : Prop where
  space : ∀ s, a.name.space = some s → SoundSpace s
  value : AllLegal a.value
  nonempty : a.name.label ≠ []
  chars : ∀ c ∈ a.name.label, isNameChar c = true
  plain : a.name.space = none → isName a.name.label = true ∧ a.name.label ≠ xmlnsPrefix

structure SoundTag (tag : Name) (attributes : List Attribute) : Prop where
  space : ∀ s, tag.space = some s → SoundSpace s
  label : isName tag.label = true
  distinct : (attributes.map (·.name)).Nodup
  each : ∀ a ∈ attributes, a.Sound

def Content.Sound : Content → Prop
  | .empty => True
  | .char c next => isLegal c = true ∧ next.Sound
  | .element tag attributes inner next => SoundTag tag attributes ∧ inner.Sound ∧ next.Sound

def Scope.Sound (scope : Scope) : Prop :=
  ∀ p ∈ scope, p.2 ≠ xmlnsNamespace ∧ '\x7d' ∉ p.2 ∧ AllLegal p.2

namespace Scope

variable {scope scope' : Scope} {label space : List Char}

theorem outermost_sound : outermost.Sound := by
  intro p there
  rw [List.mem_singleton.mp there]
  have legal : xmlNamespace.all isLegal = true := by decide
  exact ⟨by decide, by decide, List.all_eq_true.mp legal⟩

theorem mem_of_lookup {list : List (List Char × List Char)} {key value : List Char}
    (found : list.lookup key = some value) : (key, value) ∈ list := by
  obtain ⟨before, after, rfl, -⟩ := List.lookup_eq_some_iff.mp found
  simp

theorem find?_sound (sound : scope.Sound) (found : scope.find? label = some space) :
    SoundSpace space := by
  unfold find? at found
  split at found
  · cases found
  · next nonempty =>
    obtain ⟨open_, braceless, legal⟩ := sound _ (mem_of_lookup found)
    exact ⟨fun empty => nonempty (empty ▸ found), open_, braceless, legal⟩

theorem bind_sound (sound : scope.Sound) (legal : AllLegal space)
    (bound : scope.bind label space = .ok scope') : scope'.Sound := by
  have xml : xmlNamespace ≠ xmlnsNamespace := by decide
  unfold bind at bound
  split_ifs at bound with empty reserved brace isXml given other
  all_goals
    cases bound
    intro p there
    rcases List.mem_cons.mp there with rfl | old
  · refine ⟨?_, by simpa using brace, legal⟩
    rw [beq_iff_eq.mp given]
    exact xml
  · exact sound p old
  · refine ⟨?_, by simpa using brace, legal⟩
    rintro rfl
    simp at other
  · exact sound p old

end Scope

variable {scope : Scope} {label key : List Char} {name : Name}

theorem elementName_sound (sound : scope.Sound) (labelled : IsLabel label)
    (named : elementName scope label = .ok name) :
    (∀ s, name.space = some s → SoundSpace s) ∧ isName name.label = true := by
  unfold elementName at named
  rcases labelled with plain | ⟨front, rest, rfl, first, second⟩
  · rw [splitLabel_plain (colon_not_mem (nameChars_of_isName plain))] at named
    cases named
    exact ⟨fun s found => Scope.find?_sound sound found, plain⟩
  · rw [splitLabel_append (colon_not_mem (nameChars_of_isName first))] at named
    simp only at named
    split at named
    · cases named
    · next space found =>
      cases named
      refine ⟨?_, second⟩
      rintro s ⟨⟩
      exact Scope.find?_sound sound found

theorem attributeName_sound (sound : scope.Sound) (keyed : IsKey key) (ordinary : key ≠ xmlnsPrefix)
    (named : attributeName scope key = .ok name) {value : List Char} (legal : AllLegal value) :
    (⟨name, value⟩ : Attribute).Sound := by
  unfold attributeName at named
  rcases keyed with plain | ⟨front, c, rest, rfl, first, second⟩
  · rw [splitLabel_plain (colon_not_mem (nameChars_of_isName plain))] at named
    cases named
    obtain ⟨c, rest, rfl, -⟩ := exists_of_isName plain
    exact ⟨by simp, legal, by simp, nameChars_of_isName plain, fun _ => ⟨plain, ordinary⟩⟩
  · have split := splitLabel_append (colon_not_mem (nameChars_of_isName first)) (c :: rest)
    rw [split] at named
    simp only [elementName, split] at named
    split at named
    · cases named
    · next space found =>
      cases named
      refine ⟨?_, legal, by simp, second, by simp⟩
      rintro s ⟨⟩
      exact Scope.find?_sound sound found

theorem expandAttributes_sound {seen : List Name} {kept : List (List Char × List Char)}
    {attributes : List Attribute} (sound : scope.Sound)
    (keyed : ∀ p ∈ kept, IsKey p.1 ∧ p.1 ≠ xmlnsPrefix ∧ AllLegal p.2)
    (expanded : expandAttributes scope seen kept = .ok attributes) :
    (∀ a ∈ attributes, a.Sound ∧ a.name ∉ seen) ∧ (attributes.map (·.name)).Nodup := by
  induction kept generalizing seen attributes with
  | nil =>
    cases expanded
    simp
  | cons p kept ih =>
    obtain ⟨isKey, ordinary, legal⟩ := keyed p List.mem_cons_self
    obtain ⟨name, named, expanded⟩ := bind_eq_ok_iff.mp expanded
    simp only at expanded
    split at expanded
    · cases expanded
    · next fresh =>
      obtain ⟨others, later, done⟩ := bind_eq_ok_iff.mp expanded
      cases done
      obtain ⟨each, distinct⟩ := ih (fun q there => keyed q (List.mem_cons_of_mem p there)) later
      have own := attributeName_sound sound isKey ordinary named legal
      refine ⟨?_, ?_⟩
      · intro a there
        rcases List.mem_cons.mp there with rfl | old
        · exact ⟨own, by simpa using fresh⟩
        · exact ⟨(each a old).1, fun inside => (each a old).2 (List.mem_cons_of_mem name inside)⟩
      · rw [List.map_cons, List.nodup_cons]
        refine ⟨?_, distinct⟩
        intro there
        obtain ⟨a, old, same⟩ := List.mem_map.mp there
        exact (each a old).2 (same ▸ List.mem_cons_self)

def TagSurvey.Sound (survey : TagSurvey) : Prop :=
  survey.scope.Sound ∧ ∀ p ∈ survey.kept, IsKey p.1 ∧ p.1 ≠ xmlnsPrefix ∧ AllLegal p.2

namespace TagSurvey

variable {survey survey' : TagSurvey} {value tag : List Char}

theorem keep_sound (sound : survey.Sound) (keyed : IsKey label) (ordinary : label ≠ xmlnsPrefix)
    (legal : AllLegal value) :
    Sound ⟨label :: survey.seen, survey.scope, survey.kept ++ [(label, value)]⟩ := by
  refine ⟨sound.1, ?_⟩
  intro p there
  rcases List.mem_append.mp there with old | new
  · exact sound.2 p old
  · rw [List.mem_singleton.mp new]
    exact ⟨keyed, ordinary, legal⟩

theorem add_sound (sound : survey.Sound) (keyed : IsKey label) (legal : AllLegal value)
    (added : survey.add label value = .ok survey') : survey'.Sound := by
  unfold add at added
  split at added
  · obtain ⟨scope, bound, done⟩ := bind_eq_ok_iff.mp added
    cases done
    exact ⟨Scope.bind_sound sound.1 legal bound, sound.2⟩
  · next other =>
    have ordinary : label ≠ xmlnsPrefix := by simpa using other
    split at added
    · split at added
      · obtain ⟨scope, bound, done⟩ := bind_eq_ok_iff.mp added
        cases done
        exact ⟨Scope.bind_sound sound.1 legal bound, sound.2⟩
      · cases added
        exact keep_sound sound keyed ordinary legal
    · cases added
      exact keep_sound sound keyed ordinary legal

theorem addGiven_sound {doctype : Doctype} {active : List (List Char)} {raws : List RawAttribute}
    (sound : survey.Sound) (given : ∀ raw ∈ raws, IsLabel raw.label ∧ LegalPieces raw.pieces)
    (added : addGiven doctype active tag survey raws = .ok survey') : survey'.Sound := by
  induction raws generalizing survey with
  | nil =>
    cases added
    exact sound
  | cons raw raws ih =>
    obtain ⟨labelled, pieces⟩ := given raw List.mem_cons_self
    rw [addGiven] at added
    split at added
    · cases added
    · obtain ⟨value, read, added⟩ := bind_eq_ok_iff.mp added
      obtain ⟨next, first, later⟩ := bind_eq_ok_iff.mp added
      have legal := valueText_legal pieces read
      refine ih (add_sound sound labelled.isKey ?_ (mapError_eq_ok_iff.mp first))
        (fun r there => given r (List.mem_cons_of_mem raw there)) later
      split
      · exact legal
      · exact collapseSpaces_legal legal

theorem addDefaults_sound {rules : List AttributeRule} (sound : survey.Sound)
    (declared : ∀ rule ∈ rules, rule.Sound)
    (added : survey.addDefaults tag rules = .ok survey') : survey'.Sound := by
  induction rules generalizing survey with
  | nil =>
    cases added
    exact sound
  | cons rule rules ih =>
    have later : ∀ r ∈ rules, r.Sound := fun r there => declared r (List.mem_cons_of_mem rule there)
    obtain ⟨keyed, legal⟩ := declared rule List.mem_cons_self
    rw [addDefaults] at added
    split at added
    · next value default =>
      split at added
      · obtain ⟨next, first, others⟩ := bind_eq_ok_iff.mp added
        exact ih (add_sound sound keyed (legal value default) (mapError_eq_ok_iff.mp first))
          later others
      · exact ih sound later added
    · exact ih sound later added

end TagSurvey

theorem resolve_sound {doctype : Doctype} {active : List (List Char)} {raws : List RawAttribute}
    {opening : Opening} (declared : doctype.Sound) (sound : scope.Sound) (labelled : IsLabel label)
    (given : ∀ raw ∈ raws, IsLabel raw.label ∧ LegalPieces raw.pieces)
    (resolved : Opening.resolve doctype active scope label raws = .ok opening) :
    SoundTag opening.tag opening.attributes ∧ opening.scope.Sound := by
  unfold Opening.resolve at resolved
  obtain ⟨survey, first, resolved⟩ := bind_eq_ok_iff.mp resolved
  obtain ⟨whole, second, resolved⟩ := bind_eq_ok_iff.mp resolved
  obtain ⟨attributes, expanded, resolved⟩ := bind_eq_ok_iff.mp resolved
  obtain ⟨tag, named, done⟩ := bind_eq_ok_iff.mp resolved
  cases done
  have begun : TagSurvey.Sound ⟨[], scope, []⟩ := ⟨sound, by simp⟩
  have worked := TagSurvey.addDefaults_sound (TagSurvey.addGiven_sound begun given first)
    declared second
  obtain ⟨each, distinct⟩ :=
    expandAttributes_sound worked.1 worked.2 (mapError_eq_ok_iff.mp expanded)
  obtain ⟨spaced, labelled⟩ := elementName_sound worked.1 labelled (mapError_eq_ok_iff.mp named)
  exact ⟨⟨spaced, labelled, distinct, fun a there => (each a there).1⟩, worked.1⟩

end Apidoc.Xml
