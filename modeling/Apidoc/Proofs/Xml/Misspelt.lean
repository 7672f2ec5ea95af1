import Apidoc.Proofs.Xml.TagMarkup

/-!
Tags that are refused: an attribute cannot be written if its name does not begin as one behind the
colon, and no text after it changes that.
-/
namespace Apidoc.Xml

def Misspelt (label : List Char) : Prop :=
  ∃ front d rest, label = front ++ ':' :: d :: rest ∧ isName front = true ∧ isNameStart d = false

namespace Tag

def Stuck (origin : Origin) (tag : Tag) (offset : Nat) (text : List Char) : Prop :=
  ∃ a d b tag', text = a ++ d :: b ∧ tag.run origin offset a = some tag' ∧
    ∀ place, tag'.step origin place d = none

variable {origin : Origin} {tag tag' : Tag} {label : List Char} {attributes : List RawAttribute}
  {offset : Nat} {a b : List Char}

theorem Stuck.append (stuck : tag.Stuck origin offset a) (b : List Char) :
    tag.Stuck origin offset (a ++ b) := by
  obtain ⟨before, d, after, tag', rfl, reached, refused⟩ := stuck
  exact ⟨before, d, after ++ b, tag', by simp, reached, refused⟩

theorem Stuck.after (reached : tag.run origin offset a = some tag')
    (stuck : tag'.Stuck origin (offset + a.length) b) : tag.Stuck origin offset (a ++ b) := by
  obtain ⟨before, d, after, tag'', rfl, later, refused⟩ := stuck
  exact ⟨a ++ before, d, after, tag'', by simp, run_trans reached later, refused⟩

theorem stuck_attribute (settled : Settled origin tag label attributes) {key : List Char}
    (misspelt : Misspelt key) (value : List Char) (offset : Nat) :
    tag.Stuck origin offset (' ' :: key ++ "=\"".toList ++ escapeValue value ++ ['"']) := by
  obtain ⟨front, d, rest, rfl, named, other⟩ := misspelt
  obtain ⟨c, more, rfl, initial, others⟩ := exists_of_isName named
  have gap : tag.step origin offset ' ' = some (.more ⟨label, attributes, .gap⟩) :=
    settled offset ' ' (Or.inl rfl)
  have starts : step origin ⟨label, attributes, .gap⟩ (offset + 1) c =
      some (.more ⟨label, attributes, .attributeLabel ⟨[c], .none⟩ (offset + 1)⟩) := by
    simp only [step, if_pos initial]
  have reads : Label.run ⟨[c], .none⟩ (more ++ [':']) = some ⟨c :: more ++ [':'], .last⟩ := by
    rw [Label.run_append, Label.run_nameChars others (by decide)]
    rfl
  have reached : tag.run origin offset (' ' :: c :: (more ++ [':'])) =
      some ⟨label, attributes, .attributeLabel ⟨c :: more ++ [':'], .last⟩ (offset + 1)⟩ := by
    rw [run_cons gap, run_cons starts]
    exact run_attributeLabel reads _ _
  refine ⟨' ' :: c :: (more ++ [':']), d, rest ++ "=\"".toList ++ escapeValue value ++ ['"'], _,
    by simp, reached, ?_⟩
  intro place
  simp [step, Label.step, other]

theorem stuck_attributesMarkup (settled : Settled origin tag label attributes)
    {list : List (List Char × List Char)} (each : ∀ a ∈ list, Writable a ∨ Misspelt a.1)
    (misspelt : ∃ a ∈ list, Misspelt a.1) (offset : Nat) :
    tag.Stuck origin offset (attributesMarkup list) := by
  induction list generalizing tag attributes offset with
  | nil => simp at misspelt
  | cons a list ih =>
    obtain ⟨first, others⟩ := List.forall_mem_cons.mp each
    by_cases bad : Misspelt a.1
    · exact (stuck_attribute settled bad a.2 offset).append (attributesMarkup list)
    · obtain ⟨labelled, legal⟩ := first.resolve_right bad
      obtain ⟨raw, -, -, read⟩ := run_attribute settled labelled legal offset
      have later : ∃ b ∈ list, Misspelt b.1 := by
        obtain ⟨b, there, worse⟩ := misspelt
        rcases List.mem_cons.mp there with rfl | there
        · exact absurd worse bad
        · exact ⟨b, there, worse⟩
      exact .after read (ih settled_valueEnd others later _)

end Tag

namespace State

variable {doctype : Doctype} {frames : List Frame}

theorem run_stuck {tag : Tag} {length : Nat} {text : List Char}
    (stuck : tag.Stuck .document length text) :
    run doctype ⟨frames, .startTag tag, length⟩ text = none := by
  obtain ⟨a, d, b, tag', rfl, reached, refused⟩ := stuck
  have refused : ∀ place, tag'.step (Surroundings.document doctype).origin place d = none := refused
  have stops : advance doctype ⟨frames, .startTag tag', length + a.length⟩ d =
      .error ⟨.invalidToken, 0⟩ := by
    simp only [advance, step, refused]
    rfl
  rw [run_append, run_tag reached, Option.bind_some, run, stops]

theorem exists_tagMarkup (label : List Char) (list : List (List Char × List Char)) (isEmpty : Bool)
    (inner : List Char) :
    ∃ more, tagMarkup label list isEmpty inner = '<' :: label ++ attributesMarkup list ++ more := by
  cases isEmpty with
  | true => exact ⟨" />".toList, rfl⟩
  | false => exact ⟨'>' :: inner ++ "</".toList ++ label ++ ['>'], by simp [tagMarkup]⟩

/-- No element is read from a tag with a misspelt attribute. -/
theorem run_tagMarkup_misspelt {label : List Char} {list : List (List Char × List Char)}
    (labelled : IsLabel label) (each : ∀ a ∈ list, Tag.Writable a ∨ Misspelt a.1)
    (misspelt : ∃ a ∈ list, Misspelt a.1) (brackets : Nat) (afterReturn : Bool) (length : Nat)
    (isEmpty : Bool) (inner : List Char) :
    run doctype ⟨frames, .text brackets afterReturn, length⟩ (tagMarkup label list isEmpty inner) =
      none := by
  obtain ⟨tag, raws, length', reached, settled, -⟩ := @run_opening doctype frames label [] labelled
    (by simp) brackets afterReturn length
  have stuck : run doctype ⟨frames, .startTag tag, length'⟩ (attributesMarkup list) = none :=
    run_stuck (Tag.stuck_attributesMarkup settled each misspelt length')
  have opening : run doctype ⟨frames, .text brackets afterReturn, length⟩
      ('<' :: label ++ attributesMarkup list) = none := by
    rw [attributesMarkup, List.flatMap_nil, List.append_nil] at reached
    rw [run_append, reached]
    exact stuck
  obtain ⟨more, same⟩ := exists_tagMarkup label list isEmpty inner
  rw [same, run_append, opening]
  rfl

end State

end Apidoc.Xml
