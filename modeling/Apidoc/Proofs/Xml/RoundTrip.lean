import Apidoc.Proofs.Xml.Bound
import Apidoc.Proofs.Xml.Context
import Apidoc.Proofs.Xml.Misspelt

/-!
Content that is written out is read back as it was, with each line end in its text as a line feed.
Only an attribute whose name no tag can hold prevents it: markup with such an attribute is refused.
-/
namespace Apidoc.Xml

namespace Content

def lineFeeds : Content → Content
  | .empty => .empty
  | .char '\r' (.char '\n' next) => .char '\n' next.lineFeeds
  | .char '\r' next => .char '\n' next.lineFeeds
  | .char c next => .char c next.lineFeeds
  | .element tag attributes inner next => .element tag attributes inner.lineFeeds next.lineFeeds

def Spellable : Content → Prop
  | .empty => True
  | .char _ next => next.Spellable
  | .element _ attributes inner next =>
    (∀ a ∈ attributes, isName a.name.label = true) ∧ inner.Spellable ∧ next.Spellable

instance decidableSpellable : (c : Content) → Decidable c.Spellable
  | .empty => .isTrue trivial
  | .char _ next => decidableSpellable next
  | .element _ attributes inner next =>
    have := decidableSpellable inner
    have := decidableSpellable next
    inferInstanceAs (Decidable ((∀ a ∈ attributes, isName a.name.label = true) ∧ _ ∧ _))

theorem reverseOnto_reverseOnto (c d e : Content) :
    (c.reverseOnto d).reverseOnto e = d.reverseOnto (c ++ e) := by
  induction c generalizing d with
  | empty => rfl
  | char c next ih => exact ih (.char c d)
  | element tag attributes inner next _ ih => exact ih (.element tag attributes inner d)

theorem reverse_reverse (c : Content) : c.reverse.reverse = c :=
  (reverseOnto_reverseOnto c .empty .empty).trans c.append_empty

def FeedFirst : Content → Prop
  | .char c _ => c = '\n'
  | _ => False

theorem not_feedFirst {content : Content} (apart : ∀ next, content ≠ .char '\n' next) :
    ¬content.FeedFirst := by
  intro first
  cases content with
  | empty => exact first
  | char c next => exact apart next (congrArg (Content.char · next) first)
  | element => exact first

end Content

namespace State

variable {c : Char} {brackets length : Nat} {afterReturn : Bool} {frames : List Frame}

theorem stepText_plain (origin : Origin) (legal : isLegal c = true) (amp : c ≠ '&') (less : c ≠ '<')
    (greater : c ≠ '>') (bracket : c ≠ ']') (ret : c ≠ '\r')
    (kept : (c == '\n' && afterReturn) = false) (s : State) (brackets : Nat) :
    s.stepText origin brackets afterReturn c = .ok ⟨addChar c s.frames, .start, 0⟩ := by
  simp [stepText, amp, less, greater, bracket, ret, kept, legal]

theorem run_escapeTextChar (legal : isLegal c = true) (ret : c ≠ '\r')
    (apart : afterReturn = true → c ≠ '\n') :
    ∃ brackets', run .blank ⟨frames, .text brackets afterReturn, length⟩ (escapeTextChar c) =
      some ⟨addChar c frames, .text brackets' false, 0⟩ := by
  unfold escapeTextChar
  split
  · exact ⟨0, rfl⟩
  · exact ⟨0, rfl⟩
  · exact ⟨0, rfl⟩
  · next amp less greater =>
    by_cases bracket : c = ']'
    · subst bracket
      exact ⟨brackets + 1, rfl⟩
    · refine ⟨0, ?_⟩
      have kept : (c == '\n' && afterReturn) = false := by
        cases afterReturn with
        | false => exact Bool.and_false _
        | true => simpa using apart rfl
      have plain := fun origin => stepText_plain origin legal amp less greater bracket ret kept
        ⟨frames, .text brackets afterReturn, length⟩ brackets
      have advanced : advance .blank ⟨frames, .text brackets afterReturn, length⟩ c =
          .ok (.more ⟨addChar c frames, .start, 0⟩) := by
        simp only [advance, step, plain]
        rfl
      exact run_cons advanced []

/-- A character of text is always read, in whatever way. -/
theorem run_textChar (legal : isLegal c = true) (brackets : Nat) (afterReturn : Bool)
    (length : Nat) (frame : Frame) (below : List Frame) :
    ∃ content brackets' afterReturn' length',
      run .blank ⟨frame :: below, .text brackets afterReturn, length⟩ (escapeTextChar c) =
        some ⟨{ frame with content } :: below, .text brackets' afterReturn', length'⟩ := by
  by_cases ret : c = '\r'
  · subst ret
    exact ⟨_, 0, true, 0, rfl⟩
  · by_cases feed : afterReturn = true ∧ c = '\n'
    · obtain ⟨rfl, rfl⟩ := feed
      exact ⟨frame.content, 0, false, 0, rfl⟩
    · obtain ⟨brackets', reads⟩ :=
        @run_escapeTextChar c brackets length afterReturn (frame :: below) legal ret
          (not_and.mp feed)
      exact ⟨_, brackets', false, 0, reads⟩

end State

/-- Inside an element with the scope the text yields the content, after a carriage return or not. -/
def Yields (scope : Scope) (afterReturn : Bool) (text : List Char) (content : Content) : Prop :=
  ∀ frame below brackets length, frame.scope = scope → ∃ brackets' afterReturn' length',
    State.run .blank ⟨frame :: below, .text brackets afterReturn, length⟩ text =
      some ⟨{ frame with content := content.reverseOnto frame.content } :: below,
        .text brackets' afterReturn', length'⟩

namespace Yields

variable {scope : Scope} {afterReturn : Bool} {text : List Char} {content : Content}

theorem nothing (scope : Scope) (afterReturn : Bool) : Yields scope afterReturn [] .empty := by
  intro frame below brackets length same
  exact ⟨brackets, afterReturn, length, rfl⟩

theorem char {chars : List Char} {d : Char} {afterReturn' : Bool}
    (reads : ∀ frames brackets length, ∃ brackets',
      State.run .blank ⟨frames, .text brackets afterReturn, length⟩ chars =
        some ⟨addChar d frames, .text brackets' afterReturn', 0⟩)
    (later : Yields scope afterReturn' text content) :
    Yields scope afterReturn (chars ++ text) (.char d content) := by
  intro frame below brackets length same
  obtain ⟨brackets', first⟩ := reads (frame :: below) brackets length
  obtain ⟨brackets'', afterReturn'', length'', second⟩ :=
    later { frame with content := .char d frame.content } below brackets' 0 same
  exact ⟨brackets'', afterReturn'', length'', State.run_trans first second⟩

theorem returnFeed (later : Yields scope false text content) :
    Yields scope afterReturn (escapeTextChar '\r' ++ (escapeTextChar '\n' ++ text))
      (.char '\n' content) := by
  rw [← List.append_assoc]
  refine later.char ?_
  intro frames brackets length
  exact ⟨0, rfl⟩

theorem loneReturn (later : Yields scope true text content) :
    Yields scope afterReturn (escapeTextChar '\r' ++ text) (.char '\n' content) := by
  refine later.char ?_
  intro frames brackets length
  exact ⟨0, rfl⟩

theorem other {c : Char} (legal : isLegal c = true) (ret : c ≠ '\r')
    (apart : afterReturn = true → c ≠ '\n') (later : Yields scope false text content) :
    Yields scope afterReturn (escapeTextChar c ++ text) (.char c content) := by
  refine later.char ?_
  intro frames brackets length
  exact State.run_escapeTextChar legal ret apart

theorem element {chars : List Char} {tag : Name} {attributes : List Attribute} {inner : Content}
    (reads : ∀ frame below brackets length, frame.scope = scope →
      State.run .blank ⟨frame :: below, .text brackets afterReturn, length⟩ chars =
        some (.between (addElement ⟨tag, attributes, inner⟩ (frame :: below))))
    (later : Yields scope false text content) :
    Yields scope afterReturn (chars ++ text) (.element tag attributes inner content) := by
  intro frame below brackets length same
  obtain ⟨brackets', afterReturn', length', second⟩ :=
    later { frame with content := .element tag attributes inner frame.content } below 0 0 same
  exact ⟨brackets', afterReturn', length',
    State.run_trans (reads frame below brackets length same) second⟩

end Yields

section
variable {prefixes : Prefixes} {attributes : List Attribute}

theorem misspelt_qualify (sound : prefixes.Sound) {a : Attribute} (own : a.Sound)
    (covers : prefixes.Covers a.name) (other : ¬isName a.name.label = true) :
    Misspelt (prefixes.qualify a.name) := by
  rcases qualify_cases sound covers with ⟨plain, -⟩ | ⟨front, _, -, written, named, -, -⟩
  · exact absurd (own.plain plain).1 other
  · obtain ⟨d, rest, same⟩ := List.exists_cons_of_ne_nil own.nonempty
    refine ⟨front, d, rest, by rw [written, same], named, Bool.eq_false_iff.mpr ?_⟩
    intro initial
    have chars := own.chars
    rw [same] at other chars
    exact other (isName_cons.mpr ⟨initial, (List.forall_mem_cons.mp chars).2⟩)

theorem writable_written (sound : prefixes.Sound)
    (each : ∀ a ∈ attributes, a.Sound ∧ prefixes.Covers a.name)
    (spellable : ∀ a ∈ attributes, isName a.name.label = true) :
    ∀ w ∈ writtenAttributes prefixes attributes, Tag.Writable w := by
  intro w there
  obtain ⟨a, listed, rfl⟩ := List.mem_map.mp there
  obtain ⟨own, covers⟩ := each a listed
  exact ⟨isLabel_qualify sound covers (spellable a listed), own.value⟩

theorem misspelt_written (sound : prefixes.Sound)
    (each : ∀ a ∈ attributes, a.Sound ∧ prefixes.Covers a.name)
    (unspellable : ¬∀ a ∈ attributes, isName a.name.label = true) :
    (∀ w ∈ writtenAttributes prefixes attributes, Tag.Writable w ∨ Misspelt w.1) ∧
      ∃ w ∈ writtenAttributes prefixes attributes, Misspelt w.1 := by
  constructor
  · intro w there
    obtain ⟨a, listed, rfl⟩ := List.mem_map.mp there
    obtain ⟨own, covers⟩ := each a listed
    by_cases named : isName a.name.label = true
    · exact Or.inl ⟨isLabel_qualify sound covers named, own.value⟩
    · exact Or.inr (misspelt_qualify sound own covers named)
  · push Not at unspellable
    obtain ⟨a, listed, other⟩ := unspellable
    obtain ⟨own, covers⟩ := each a listed
    exact ⟨_, List.mem_map_of_mem listed, misspelt_qualify sound own covers other⟩

theorem writable_declarations (sound : prefixes.Sound) :
    ∀ w ∈ prefixes.declarations, Tag.Writable w := by
  intro w there
  obtain ⟨e, listed, rfl⟩ := List.mem_map.mp there
  have listed := prefixes.sorted_perm.mem_iff.mp listed
  obtain ⟨named, -, -⟩ := Prefixes.label_spec sound listed
  exact ⟨Or.inr ⟨xmlnsPrefix, e.2, rfl, by decide, named⟩, (sound.declarable e listed).1.legal⟩

end

/-- In the outer scope the label and the listed attributes say what an element is and what scope is
inside it, if they can be read at all. -/
structure Tells (outer : Scope) (label : List Char) (list : List (List Char × List Char))
    (opening : Opening) : Prop where
  labelled : IsLabel label
  resolved : ∀ raws, List.Forall₂ Tag.Spells raws list →
    Opening.resolve .blank [] outer label raws = .ok opening
  writable : (∀ a ∈ opening.attributes, isName a.name.label = true) → ∀ w ∈ list, Tag.Writable w
  misspelt : (¬∀ a ∈ opening.attributes, isName a.name.label = true) →
    (∀ w ∈ list, Tag.Writable w ∨ Misspelt w.1) ∧ ∃ w ∈ list, Misspelt w.1

section
variable {prefixes : Prefixes} {scope : Scope} {tag : Name} {attributes : List Attribute}

theorem tells_nested (sound : prefixes.Sound) (binds : scope.Binds prefixes)
    (tagged : SoundTag tag attributes) (covers : prefixes.CoversTag tag attributes) :
    Tells scope (prefixes.qualify tag) (writtenAttributes prefixes attributes)
      ⟨tag, attributes, scope⟩ := by
  have each := tagged.covered covers
  exact ⟨isLabel_qualify sound covers.1 tagged.label,
    fun raws spell => resolve_nested sound binds tagged covers spell,
    writable_written sound each, misspelt_written sound each⟩

theorem tells_declaring (sound : prefixes.Sound) (tagged : SoundTag tag attributes)
    (covers : prefixes.CoversTag tag attributes) :
    Tells .outermost (prefixes.qualify tag)
      (prefixes.declarations ++ writtenAttributes prefixes attributes)
      ⟨tag, attributes, prefixes.declared⟩ := by
  have each := tagged.covered covers
  have declarations := writable_declarations sound
  refine ⟨isLabel_qualify sound covers.1 tagged.label,
    fun raws spell => resolve_declaring sound tagged covers spell, ?_, ?_⟩
  · intro labels
    exact List.forall_mem_append.mpr ⟨declarations, writable_written sound each labels⟩
  · intro unspellable
    obtain ⟨others, w, there, bad⟩ := misspelt_written sound each unspellable
    exact ⟨List.forall_mem_append.mpr ⟨fun w there => Or.inl (declarations w there), others⟩,
      w, List.mem_append_right _ there, bad⟩

end

theorem tagMarkup_filled (label : List Char) (list : List (List Char × List Char))
    (inner : List Char) :
    tagMarkup label list false inner =
      '<' :: label ++ attributesMarkup list ++ ['>'] ++ inner ++
        ("</".toList ++ label ++ ['>']) := by
  simp [tagMarkup, List.append_assoc]

def Refused (scope : Scope) (text : List Char) : Prop :=
  ∀ frame below brackets afterReturn length, frame.scope = scope →
    State.run .blank ⟨frame :: below, .text brackets afterReturn, length⟩ text = none

section
variable {outer : Scope} {label : List Char} {list : List (List Char × List Char)}
  {tag : Name} {attributes : List Attribute} {scope : Scope} {inner next : Content}
  {innerText nextText : List Char}

theorem Tells.run_start (tells : Tells outer label list ⟨tag, attributes, scope⟩)
    (labels : ∀ a ∈ attributes, isName a.name.label = true) {frame : Frame}
    (same : frame.scope = outer) (below : List Frame) (brackets : Nat) (afterReturn : Bool)
    (length : Nat) :
    State.run .blank ⟨frame :: below, .text brackets afterReturn, length⟩
        ('<' :: label ++ attributesMarkup list ++ ['>']) =
      some (.between (⟨label, tag, attributes, scope, .empty⟩ :: frame :: below)) :=
  @State.run_startTag .blank (frame :: below) label list _ tells.labelled (tells.writable labels)
    (same ▸ tells.resolved) brackets afterReturn length

/-- A written element is read as one if what is written inside it is. -/
theorem Tells.run_element (tells : Tells outer label list ⟨tag, attributes, scope⟩)
    (labels : ∀ a ∈ attributes, isName a.name.label = true)
    (yields : Yields scope false innerText inner.lineFeeds) {frame : Frame}
    (same : frame.scope = outer) (below : List Frame) (brackets : Nat) (afterReturn : Bool)
    (length : Nat) :
    State.run .blank ⟨frame :: below, .text brackets afterReturn, length⟩
        (tagMarkup label list (inner = .empty) innerText) =
      some (.between (addElement ⟨tag, attributes, inner.lineFeeds⟩ (frame :: below))) := by
  by_cases empty : inner = .empty
  · rw [empty]
    exact @State.run_emptyTag .blank (frame :: below) label list _ tells.labelled
      (tells.writable labels) (same ▸ tells.resolved) (List.cons_ne_nil _ _) brackets afterReturn
      length
  · obtain ⟨brackets', afterReturn', length', fills⟩ :=
      yields ⟨label, tag, attributes, scope, .empty⟩ (frame :: below) 0 0 rfl
    have closes := @State.run_endTag .blank
      ⟨label, tag, attributes, scope, inner.lineFeeds.reverse⟩ (frame :: below)
      tells.labelled (List.cons_ne_nil _ _) brackets' afterReturn' length'
    rw [decide_eq_false empty, tagMarkup_filled, ← inner.lineFeeds.reverse_reverse]
    exact State.run_trans
      (State.run_trans (tells.run_start labels same below brackets afterReturn length) fills) closes

theorem Tells.yields (tells : Tells outer label list ⟨tag, attributes, scope⟩)
    (labels : ∀ a ∈ attributes, isName a.name.label = true)
    (yields : Yields scope false innerText inner.lineFeeds)
    (later : Yields outer false nextText next.lineFeeds) (afterReturn : Bool) :
    Yields outer afterReturn (tagMarkup label list (inner = .empty) innerText ++ nextText)
      (.element tag attributes inner.lineFeeds next.lineFeeds) := by
  refine later.element ?_
  intro frame below brackets length same
  exact tells.run_element labels yields same below brackets afterReturn length

/-- An element in which something cannot be spelled is refused, or what follows it is. -/
theorem Tells.refused (tells : Tells outer label list ⟨tag, attributes, scope⟩)
    (yields : inner.Spellable → Yields scope false innerText inner.lineFeeds)
    (within : ¬inner.Spellable → Refused scope innerText)
    (after : ¬next.Spellable → Refused outer nextText)
    (unspellable : ¬(Content.element tag attributes inner next).Spellable) :
    Refused outer (tagMarkup label list (inner = .empty) innerText ++ nextText) := by
  intro frame below brackets afterReturn length same
  by_cases labels : ∀ a ∈ attributes, isName a.name.label = true
  · by_cases spellable : inner.Spellable
    · have later : ¬next.Spellable := fun more => unspellable ⟨labels, spellable, more⟩
      rw [State.run_append, tells.run_element labels (yields spellable) same]
      exact after later
        { frame with content := .element tag attributes inner.lineFeeds frame.content }
        below 0 false 0 same
    · have filled : inner ≠ .empty := by
        rintro rfl
        exact spellable trivial
      have stops := within spellable ⟨label, tag, attributes, scope, .empty⟩ (frame :: below) 0
        false 0 rfl
      rw [decide_eq_false filled, tagMarkup_filled, List.append_assoc, List.append_assoc,
        State.run_append, tells.run_start labels same, Option.bind_some, State.run_append]
      exact congrArg (Option.bind · _) stops
  · obtain ⟨each, misspelt⟩ := tells.misspelt labels
    rw [State.run_append, State.run_tagMarkup_misspelt tells.labelled each misspelt]
    rfl

theorem Refused.char {c : Char} {text : List Char} (legal : isLegal c = true)
    (refused : Refused scope text) : Refused scope (escapeTextChar c ++ text) := by
  intro frame below brackets afterReturn length same
  obtain ⟨content, brackets', afterReturn', length', reads⟩ :=
    State.run_textChar legal brackets afterReturn length frame below
  rw [State.run_append, reads]
  exact refused { frame with content } below brackets' afterReturn' length' same

end

section
variable {prefixes : Prefixes} {scope : Scope} {content : Content} {afterReturn : Bool}

theorem yields_nestedMarkup (sound : prefixes.Sound) (binds : scope.Binds prefixes)
    (inside : content.Sound) (covers : prefixes.CoversContent content)
    (spellable : content.Spellable) (apart : afterReturn = true → ¬content.FeedFirst) :
    Yields scope afterReturn (content.nestedMarkup prefixes) content.lineFeeds := by
  -- The cases are those of `lineFeeds`. A line feed after a carriage return is taken with it, so
  -- only the lone return hands on that one came before, and `apart` says what cannot follow it.
  fun_induction Content.lineFeeds content generalizing afterReturn with
  | case1 => exact .nothing scope afterReturn
  | case2 next ih => exact (ih inside.2.2 covers spellable (by simp)).returnFeed
  | case3 next single ih =>
    exact (ih inside.2 covers spellable fun _ => Content.not_feedFirst single).loneReturn
  | case4 c next _ ret ih =>
    exact .other inside.1 ret apart (ih inside.2 covers spellable (by simp))
  | case5 tag attributes inner next ihInner ihNext =>
    obtain ⟨tagged, within, after⟩ := inside
    obtain ⟨coversTag, coversInner, coversNext⟩ := covers
    obtain ⟨labels, innerSpellable, nextSpellable⟩ := spellable
    exact (tells_nested sound binds tagged coversTag).yields labels
      (ihInner within coversInner innerSpellable (by simp))
      (ihNext after coversNext nextSpellable (by simp)) afterReturn

theorem refused_nestedMarkup (sound : prefixes.Sound) (binds : scope.Binds prefixes)
    (inside : content.Sound) (covers : prefixes.CoversContent content)
    (unspellable : ¬content.Spellable) : Refused scope (content.nestedMarkup prefixes) := by
  induction content with
  | empty => exact absurd trivial unspellable
  | char c next ih => exact (ih inside.2 covers unspellable).char inside.1
  | element tag attributes inner next ihInner ihNext =>
    obtain ⟨tagged, within, after⟩ := inside
    obtain ⟨coversTag, coversInner, coversNext⟩ := covers
    exact (tells_nested sound binds tagged coversTag).refused
      (fun spellable => yields_nestedMarkup sound binds within coversInner spellable (by simp))
      (ihInner within coversInner) (ihNext after coversNext) unspellable

/-- Content that is written out is read back, with its line ends as line feeds. -/
theorem yields_markup (inside : content.Sound) (spellable : content.Spellable)
    (apart : afterReturn = true → ¬content.FeedFirst) :
    Yields .outermost afterReturn content.markup content.lineFeeds := by
  fun_induction Content.lineFeeds content generalizing afterReturn with
  | case1 => exact .nothing .outermost afterReturn
  | case2 next ih => exact (ih inside.2.2 spellable (by simp)).returnFeed
  | case3 next single ih =>
    exact (ih inside.2 spellable fun _ => Content.not_feedFirst single).loneReturn
  | case4 c next _ ret ih => exact .other inside.1 ret apart (ih inside.2 spellable (by simp))
  | case5 tag attributes inner next _ ihNext =>
    obtain ⟨tagged, within, after⟩ := inside
    obtain ⟨labels, innerSpellable, nextSpellable⟩ := spellable
    obtain ⟨sound, coversTag, coversInner⟩ := Prefixes.ofElement_spec tagged within
    exact (tells_declaring sound tagged coversTag).yields labels
      (yields_nestedMarkup sound (binds_declared sound) within coversInner innerSpellable (by simp))
      (ihNext after nextSpellable (by simp)) afterReturn

/-- Content with an attribute that no tag can hold is refused when it is written out. -/
theorem refused_markup (inside : content.Sound) (unspellable : ¬content.Spellable) :
    Refused .outermost content.markup := by
  induction content with
  | empty => exact absurd trivial unspellable
  | char c next ih => exact (ih inside.2 unspellable).char inside.1
  | element tag attributes inner next _ ihNext =>
    obtain ⟨tagged, within, after⟩ := inside
    obtain ⟨sound, coversTag, coversInner⟩ := Prefixes.ofElement_spec tagged within
    have binds := binds_declared sound
    exact (tells_declaring sound tagged coversTag).refused
      (fun spellable => yields_nestedMarkup sound binds within coversInner spellable (by simp))
      (refused_nestedMarkup sound binds within coversInner) (ihNext after) unspellable

end

end Apidoc.Xml
