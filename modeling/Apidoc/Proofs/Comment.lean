import Apidoc.Proofs.Xml.Fragment
import Apidoc.Proofs.Xml.Parsed
import Apidoc.Proofs.Xml.RoundTrip

/-!
The markup of a passage is a fragment with the same content, wherever in a document the passage
stands.
-/
namespace Apidoc

namespace Xml

inductive Element.Within (root : Element) : Element → Prop
  | self : Within root root
  | child {parent e : Element} (above : Within root parent) (listed : e ∈ parent.children) :
    Within root e

theorem Content.Sound.elements {content : Content} (sound : content.Sound) {e : Element}
    (listed : e ∈ content.elements) : e.Sound := by
  induction content with
  | empty => cases listed
  | char c next ih => exact ih sound.2 listed
  | element tag attributes inner next _ ih =>
    rcases List.mem_cons.mp listed with rfl | later
    · exact ⟨sound.1, sound.2.1⟩
    · exact ih sound.2.2 later

theorem Element.Within.sound {root e : Element} (inside : root.Within e) (sound : root.Sound) :
    e.Sound := by
  induction inside with
  | self => exact sound
  | child above listed ih => exact ih.content.elements listed

theorem readsTo_markup {content content' : Content} (sound : content.Sound) :
    ReadsTo content.markup content' ↔
      content.Spellable ∧ content' = content.lineFeeds.reverse := by
  by_cases spellable : content.Spellable
  · have yields : Yields .outermost false content.markup content.lineFeeds :=
      yields_markup sound spellable (by simp)
    obtain ⟨brackets, afterReturn, length, reads⟩ := yields bareMember [] 0 0 rfl
    simp only [spellable, true_and]
    constructor
    · rintro ⟨brackets', afterReturn', length', reads'⟩
      cases reads.symm.trans reads'
      rfl
    · rintro rfl
      exact ⟨brackets, afterReturn, length, reads⟩
  · simp only [spellable, false_and, iff_false]
    rintro ⟨brackets, afterReturn, length, reads⟩
    have stops := refused_markup sound spellable bareMember [] 0 false 0 rfl
    cases stops.symm.trans reads

end Xml

namespace Comment

open Xml (Element parseDocument)

/-- The markup of an element of a document is read as a fragment if it can be spelled, and then it
has the content of the element with line feeds for line ends. -/
theorem ofFragment_markup {text : List Char} {root e : Element}
    (parsed : parseDocument text = .ok root) (inside : root.Within e) (source : String)
    (comment : Comment) :
    ofFragment (Passage.markup e) source = .ok comment ↔
      e.content.Spellable ∧ comment = ⟨⟨.plain "member", [], e.content.lineFeeds⟩⟩ := by
  have sound := inside.sound (Xml.parseDocument_sound parsed)
  rw [ofFragment_eq_ok_iff, Passage.markup, String.toList_ofList]
  simp only [Xml.readsTo_markup sound.content]
  constructor
  · rintro ⟨content, ⟨spellable, rfl⟩, rfl⟩
    exact ⟨spellable, by rw [Xml.Content.reverse_reverse]⟩
  · rintro ⟨spellable, rfl⟩
    exact ⟨_, ⟨spellable, rfl⟩, by rw [Xml.Content.reverse_reverse]⟩

def sample : Element :=
  ⟨.plain "c", [],
    .char '\r' (.char '\n' (.char ']' (.char ']' (.char '>'
      (.element ⟨some "urn:x".toList, "b".toList⟩
        [⟨⟨some "urn:x".toList, "k".toList⟩, "1\n2".toList⟩] .empty
        (.char '\r' .empty))))))⟩

def sampleText : String :=
  "<doc xmlns:a='urn:x'><c>&#13;&#10;]]&gt;<a:b a:k='1&#10;2'/>&#13;</c></doc>"

theorem ofFragment_markup_sample :
    ∃ root, parseDocument sampleText.toList = .ok root ∧ root.Within sample ∧
      sample.content.Spellable ∧
      ofFragment (Passage.markup sample) fragmentSource = .ok ⟨⟨.plain "member", [],
        .char '\n' (.char ']' (.char ']' (.char '>'
          (.element ⟨some "urn:x".toList, "b".toList⟩
            [⟨⟨some "urn:x".toList, "k".toList⟩, "1\n2".toList⟩] .empty
            (.char '\n' .empty)))))⟩⟩ := by
  have parsed : parseDocument sampleText.toList = .ok ⟨.plain "doc", [], sample.onto .empty⟩ := by
    decide +kernel
  have inside : Element.Within ⟨.plain "doc", [], sample.onto .empty⟩ sample :=
    .child .self (List.mem_singleton.mpr rfl)
  have spellable : sample.content.Spellable := by decide +kernel
  exact ⟨_, parsed, inside, spellable,
    (ofFragment_markup parsed inside fragmentSource _).mpr ⟨spellable, rfl⟩⟩

/-- A declaration can give an attribute a name that no tag can hold. -/
theorem markup_of_default_refused :
    ¬∀ text root e, parseDocument text = .ok root → root.Within e →
      ∃ comment, ofFragment (Passage.markup e) fragmentSource = .ok comment ∧
        comment.element.content = e.content.lineFeeds := by
  intro each
  have parsed : parseDocument
      ("<!DOCTYPE doc [<!ATTLIST c a:1b CDATA 'x'>]>" ++
        "<doc xmlns:a='urn:x'><c/></doc>").toList =
      .ok ⟨.plain "doc", [], .element (.plain "c") [⟨⟨some "urn:x".toList, "1b".toList⟩, ['x']⟩]
        .empty .empty⟩ := by decide +kernel
  obtain ⟨comment, read, -⟩ := each _ _ _ parsed .self
  have written : Passage.markup ⟨.plain "doc", [], .element (.plain "c")
      [⟨⟨some "urn:x".toList, "1b".toList⟩, ['x']⟩] .empty .empty⟩ =
        "<c xmlns:ns0=\"urn:x\" ns0:1b=\"x\" />" := by decide +kernel
  have refused :
      (ofFragment "<c xmlns:ns0=\"urn:x\" ns0:1b=\"x\" />" fragmentSource).isOk = false := by
    decide +kernel
  rw [← written, read] at refused
  cases refused

end Comment

end Apidoc
