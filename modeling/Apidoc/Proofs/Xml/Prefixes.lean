import Mathlib.Data.List.Nodup
import Apidoc.Proofs.Xml.Sound
import Apidoc.Xml.Markup

/-!
The prefixes that are invented for written elements: each namespace that is met gets one, no two get
the same, and all of them can be declared.
-/
namespace Apidoc.Xml

theorem lookup_of_mem {list : List (List Char × List Char)} {key value : List Char}
    (distinct : (list.map (·.1)).Nodup) (there : (key, value) ∈ list) :
    list.lookup key = some value := by
  induction list with
  | nil => cases there
  | cons entry rest ih =>
    obtain ⟨first, others⟩ := List.nodup_cons.mp (List.map_cons ▸ distinct)
    rcases List.mem_cons.mp there with rfl | later
    · exact List.lookup_cons_self
    · have apart : (key == entry.1) = false := by
        refine beq_eq_false_iff_ne.mpr ?_
        rintro rfl
        exact first (List.mem_map.mpr ⟨_, later, rfl⟩)
      rw [List.lookup_cons, apart]
      exact ih others later

theorem isNameChar_of_isDigit {c : Char} (digit : c.isDigit = true) : isNameChar c = true := by
  have range : 0x30 ≤ c.toNat ∧ c.toNat ≤ 0x39 := Char.isDigit_iff_toNat.mp digit
  have marked : nameMarks.has c = true := by
    rw [Text.Ranges.has, Text.Ranges.hasCode, nameMarks, List.any_cons]
    simp [range]
  simp [isNameChar, marked]

namespace Prefixes

def numbered (n : Nat) : List Char := 'n' :: 's' :: (toString n).toList

theorem toList_toString (n : Nat) : (toString n).toList = Nat.toDigits 10 n := by
  rw [Nat.toString_eq_ofList_toDigits, String.toList_ofList]

theorem numbered_injective {j k : Nat} (same : numbered j = numbered k) : j = k := by
  simp only [numbered, List.cons.injEq, true_and, toList_toString] at same
  rw [← @Nat.ofDigitChars_ten_toDigits j, same, Nat.ofDigitChars_ten_toDigits]

theorem isName_numbered (n : Nat) : isName (numbered n) = true := by
  refine isName_cons.mpr ⟨by decide, ?_⟩
  intro d there
  rcases List.mem_cons.mp there with rfl | digit
  · decide
  · rw [toList_toString] at digit
    exact isNameChar_of_isDigit (Nat.isDigit_of_mem_toDigits (by decide) (by decide) digit)

/-- The customary prefixes are names, none looks like an invented one or is kept for declarations,
and `xml` stands only for its own namespace. -/
theorem customary_label {space label : List Char}
    (found : customaryPrefixes.lookup space = some label) :
    isName label = true ∧ label ≠ xmlnsPrefix ∧ (∀ n, label ≠ numbered n) ∧
      (label = "xml".toList → space = xmlNamespace) := by
  have each : ∀ e ∈ customaryPrefixes, isName e.2 = true ∧ e.2 ≠ xmlnsPrefix ∧
      e.2.head? ≠ some 'n' ∧ (e.2 = "xml".toList → e.1 = xmlNamespace) := by decide
  obtain ⟨named, free, unlike, own⟩ := each _ (Scope.mem_of_lookup found)
  refine ⟨named, free, ?_, own⟩
  rintro n rfl
  exact unlike rfl

theorem customary_injective {s t label : List Char}
    (first : customaryPrefixes.lookup s = some label)
    (second : customaryPrefixes.lookup t = some label) : s = t := by
  have each : ∀ e ∈ customaryPrefixes, ∀ f ∈ customaryPrefixes, e.2 = f.2 → e.1 = f.1 := by decide
  exact each _ (Scope.mem_of_lookup first) _ (Scope.mem_of_lookup second) rfl

structure Sound (prefixes : Prefixes) : Prop where
  spaces : (prefixes.map (·.1)).Nodup
  declarable : ∀ e ∈ prefixes, SoundSpace e.1 ∧ e.1 ≠ xmlNamespace
  invented : ∀ e ∈ prefixes, customaryPrefixes.lookup e.1 = some e.2 ∨
    ∃ n < prefixes.length, e.2 = numbered n
  labels : (prefixes.map (·.2)).Nodup

def Covers (prefixes : Prefixes) (name : Name) : Prop :=
  ∀ s, name.space = some s → s = xmlNamespace ∨ ∃ label, (s, label) ∈ prefixes

variable {prefixes : Prefixes} {name : Name}

theorem nil_sound : Sound [] :=
  ⟨List.nodup_nil, by simp, by simp, List.nodup_nil⟩

theorem append_sound (sound : prefixes.Sound) {space label : List Char}
    (declarable : SoundSpace space) (other : space ≠ xmlNamespace)
    (fresh : space ∉ prefixes.map (·.1))
    (invented : customaryPrefixes.lookup space = some label ∨
      customaryPrefixes.lookup space = none ∧ label = numbered prefixes.length) :
    Sound (prefixes ++ [(space, label)]) := by
  have unused : label ∉ prefixes.map (·.2) := by
    intro there
    obtain ⟨e, listed, rfl⟩ := List.mem_map.mp there
    rcases invented with customary | ⟨-, next⟩
    · rcases sound.invented e listed with old | ⟨n, -, old⟩
      · exact fresh (List.mem_map.mpr ⟨e, listed, customary_injective old customary⟩)
      · exact (customary_label customary).2.2.1 n old
    · rcases sound.invented e listed with old | ⟨n, lower, old⟩
      · exact (customary_label old).2.2.1 _ next
      · have same := numbered_injective (old.symm.trans next)
        omega
  refine ⟨?_, ?_, ?_, ?_⟩
  · rw [List.map_append]
    exact sound.spaces.append (by simp) (by simpa using fresh)
  · intro e there
    rcases List.mem_append.mp there with old | new
    · exact sound.declarable e old
    · rw [List.mem_singleton.mp new]
      exact ⟨declarable, other⟩
  · intro e there
    rw [List.length_append, List.length_singleton]
    rcases List.mem_append.mp there with old | new
    · rcases sound.invented e old with customary | ⟨n, lower, same⟩
      · exact Or.inl customary
      · exact Or.inr ⟨n, by omega, same⟩
    · rw [List.mem_singleton.mp new]
      rcases invented with customary | ⟨-, next⟩
      · exact Or.inl customary
      · exact Or.inr ⟨prefixes.length, by omega, next⟩
  · rw [List.map_append]
    exact sound.labels.append (by simp) (by simpa using unused)

theorem addName_spec (sound : prefixes.Sound)
    (declarable : ∀ s, name.space = some s → SoundSpace s) :
    (prefixes.addName name).Sound ∧ prefixes ⊆ prefixes.addName name ∧
      (prefixes.addName name).Covers name := by
  unfold addName
  split
  · next plain => exact ⟨sound, List.Subset.refl _, by simp [Covers, plain]⟩
  · next space spaced =>
    split_ifs with known
    · refine ⟨sound, List.Subset.refl _, ?_⟩
      rintro s same
      rw [spaced, Option.some.injEq] at same
      subst same
      rcases Bool.or_eq_true _ _ ▸ known with xml | listed
      · exact Or.inl (beq_iff_eq.mp xml)
      · obtain ⟨e, there, same⟩ := List.any_eq_true.mp listed
        exact Or.inr ⟨e.2, beq_iff_eq.mp same ▸ there⟩
    · rw [Bool.or_eq_true, not_or] at known
      have other : space ≠ xmlNamespace := by simpa using known.1
      have fresh : space ∉ prefixes.map (·.1) := by
        intro there
        obtain ⟨e, listed, same⟩ := List.mem_map.mp there
        exact known.2 (List.any_eq_true.mpr ⟨e, listed, beq_iff_eq.mpr same⟩)
      have added : ∀ label, Covers (prefixes ++ [(space, label)]) name := by
        intro label s same
        rw [spaced, Option.some.injEq] at same
        exact Or.inr ⟨label, by simp [same]⟩
      have grows : ∀ label, prefixes ⊆ prefixes ++ [(space, label)] :=
        fun label => List.subset_append_left _ _
      split
      · next label customary =>
        exact ⟨append_sound sound (declarable space spaced) other fresh (Or.inl customary),
          grows label, added label⟩
      · next none_customary =>
        exact ⟨append_sound sound (declarable space spaced) other fresh
          (Or.inr ⟨none_customary, rfl⟩), grows _, added _⟩

theorem Covers.mono {more : Prefixes} (grows : prefixes ⊆ more) (covers : prefixes.Covers name) :
    more.Covers name := by
  intro s same
  rcases covers s same with xml | ⟨label, there⟩
  · exact Or.inl xml
  · exact Or.inr ⟨label, grows there⟩

def CoversTag (prefixes : Prefixes) (tag : Name) (attributes : List Attribute) : Prop :=
  prefixes.Covers tag ∧ ∀ a ∈ attributes, prefixes.Covers a.name

def CoversContent (prefixes : Prefixes) : Content → Prop
  | .empty => True
  | .char _ next => prefixes.CoversContent next
  | .element tag attributes inner next =>
    prefixes.CoversTag tag attributes ∧ prefixes.CoversContent inner ∧ prefixes.CoversContent next

theorem CoversTag.mono {more : Prefixes} {tag : Name} {attributes : List Attribute}
    (grows : prefixes ⊆ more) (covers : prefixes.CoversTag tag attributes) :
    more.CoversTag tag attributes :=
  ⟨covers.1.mono grows, fun a there => (covers.2 a there).mono grows⟩

theorem CoversContent.mono {more : Prefixes} {content : Content} (grows : prefixes ⊆ more)
    (covers : prefixes.CoversContent content) : more.CoversContent content := by
  induction content with
  | empty => trivial
  | char c next ih => exact ih covers
  | element tag attributes inner next ihInner ihNext =>
    exact ⟨covers.1.mono grows, ihInner covers.2.1, ihNext covers.2.2⟩

theorem addNames_spec {attributes : List Attribute} (sound : prefixes.Sound)
    (declarable : ∀ a ∈ attributes, ∀ s, a.name.space = some s → SoundSpace s) :
    let more := attributes.foldl (fun p a => p.addName a.name) prefixes
    Sound more ∧ prefixes ⊆ more ∧ ∀ a ∈ attributes, Covers more a.name := by
  induction attributes generalizing prefixes with
  | nil => exact ⟨sound, List.Subset.refl _, by simp⟩
  | cons a attributes ih =>
    obtain ⟨own, grows, covers⟩ := addName_spec sound (declarable a List.mem_cons_self)
    obtain ⟨all, later, others⟩ :=
      ih own (fun b there => declarable b (List.mem_cons_of_mem a there))
    exact ⟨all, List.Subset.trans grows later,
      List.forall_mem_cons.mpr ⟨covers.mono later, others⟩⟩

theorem addTag_spec {tag : Name} {attributes : List Attribute} (sound : prefixes.Sound)
    (tagged : SoundTag tag attributes) :
    (prefixes.addTag tag attributes).Sound ∧ prefixes ⊆ prefixes.addTag tag attributes ∧
      (prefixes.addTag tag attributes).CoversTag tag attributes := by
  obtain ⟨own, grows, covers⟩ := addName_spec sound tagged.space
  obtain ⟨all, later, others⟩ := addNames_spec own (fun a there => (tagged.each a there).space)
  exact ⟨all, List.Subset.trans grows later, covers.mono later, others⟩

theorem addContent_spec {content : Content} (sound : prefixes.Sound) (inside : content.Sound) :
    (prefixes.addContent content).Sound ∧ prefixes ⊆ prefixes.addContent content ∧
      (prefixes.addContent content).CoversContent content := by
  induction content generalizing prefixes with
  | empty => exact ⟨sound, List.Subset.refl _, trivial⟩
  | char c next ih => exact ih sound inside.2
  | element tag attributes inner next ihInner ihNext =>
    obtain ⟨tagged, within, after⟩ := inside
    obtain ⟨first, grows, covers⟩ := addTag_spec sound tagged
    obtain ⟨second, grows', covers'⟩ := ihInner first within
    obtain ⟨third, grows'', covers''⟩ := ihNext second after
    exact ⟨third, List.Subset.trans grows (List.Subset.trans grows' grows''),
      covers.mono (List.Subset.trans grows' grows''), covers'.mono grows'', covers''⟩

/-- The prefixes that an element declares are enough for it and for all that is inside it. -/
theorem ofElement_spec {tag : Name} {attributes : List Attribute} {inner : Content}
    (tagged : SoundTag tag attributes) (inside : inner.Sound) :
    (ofElement tag attributes inner).Sound ∧
      (ofElement tag attributes inner).CoversTag tag attributes ∧
      (ofElement tag attributes inner).CoversContent inner := by
  obtain ⟨first, -, covers⟩ := addTag_spec nil_sound tagged
  obtain ⟨second, grows, covers'⟩ := addContent_spec first inside
  exact ⟨second, covers.mono grows, covers'⟩

theorem label_spec (sound : prefixes.Sound) {e : List Char × List Char} (there : e ∈ prefixes) :
    isName e.2 = true ∧ e.2 ≠ xmlnsPrefix ∧ e.2 ≠ "xml".toList := by
  rcases sound.invented e there with customary | ⟨n, -, same⟩
  · obtain ⟨named, free, -, own⟩ := customary_label customary
    exact ⟨named, free, fun xml => (sound.declarable e there).2 (own xml)⟩
  · rw [same]
    exact ⟨isName_numbered n, by simp [numbered, xmlnsPrefix], by simp [numbered]⟩

end Prefixes

end Apidoc.Xml
