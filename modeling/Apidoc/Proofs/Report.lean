import Apidoc.Proofs.Console.Item
import Apidoc.Proofs.Console.Seam
import Apidoc.Report

/-!
The tags in a report. It is made of items, each with two tags, and of the lines about links, which
have none of their own. So the tags that are found in it are those that are written there, unless a
name in a style takes the meaning from the tag after it, or the texts of the links make up a tag
together.
-/
namespace Apidoc.Report

open Console

section Lines

def below (lines : List String) (rest : List Char) : List Char :=
  lines.foldr (fun line rest => '\n' :: (line.toList ++ rest)) rest

theorem below_cons (line : String) (lines : List String) (rest : List Char) :
    below (line :: lines) rest = '\n' :: (line.toList ++ below lines rest) := rfl

theorem below_append (lines more : List String) (rest : List Char) :
    below (lines ++ more) rest = below lines (below more rest) :=
  List.foldr_append

theorem newline_intercalate (line : String) (lines : List String) :
    '\n' :: ("\n".intercalate (line :: lines)).toList = below (line :: lines) [] := by
  induction lines generalizing line with
  | nil => simp [below]
  | cons next more ih =>
    rw [String.intercalate_cons_cons, below_cons, ← ih next]
    simp [String.toList_append]

theorem newline_render (e : Entity) : '\n' :: (render e).toList = below (lines e) [] :=
  newline_intercalate _ _

end Lines

section Items

def textItem (title text : String) : Item where
  indent := .newline
  style := .bold
  label := title
  gap := .newline
  body := text

def titleItem (title : String) : Item where
  indent := .newline
  style := .bold
  label := title

def noteItem (style : Emphasis) (name description : String) : Item where
  indent := .spaces
  style := style
  label := name
  gap := .spaces
  body := description

def parameterItem (note : ParameterNote) : Item :=
  noteItem .cyan note.name note.description

def exceptionItem (note : ExceptionNote) : Item :=
  noteItem .red ((note.cref.filter (!·.isEmpty)).getD "?") note.description

def sectionItems (title : String) (notes : List Item) : List Item :=
  if notes.isEmpty then [] else titleItem title :: notes

def headItems (e : Entity) : List Item :=
  [{ style := .dim, label := e.kind.word, gap := .spaces, body := e.fullName.getD "" },
   { style := .dim, label := "file id:", gap := .space, body := e.stem.getD "" }]

def textItems (title : String) (text : Option String) : List Item :=
  (text.filter (!·.isEmpty)).toList.map (textItem title)

def items (e : Entity) : List Item :=
  headItems e ++ textItems "Summary" e.description ++ textItems "Remarks" e.remarks
    ++ sectionItems "Type parameters" (e.typeParameters.map parameterItem)
    ++ sectionItems "Parameters" (e.parameters.map parameterItem)
    ++ textItems "Returns" e.returns ++ textItems "Value" e.value
    ++ sectionItems "Exceptions" (e.exceptions.map exceptionItem)

def linkLines (e : Entity) : List Char :=
  if e.seeAlso.isEmpty then []
  else (titleItem "See also").toHeading.before (below (e.seeAlso.map linkLine) [])

theorem toList_styled (style text : String) (rest : List Char) :
    (styled style text).toList ++ rest = '[' :: (style.toList ++ ']' ::
      (text.toList ++ '[' :: (('/' :: style.toList) ++ ']' :: rest))) := by
  simp only [styled, String.toList_append, List.append_assoc]
  rfl

theorem below_item (item : Item) (rest : List Char) :
    '\n' :: (item.indent.chars ++ ((styled item.style.name (escape item.label)).toList
      ++ (item.gap.chars ++ ((escape item.body).toList ++ rest)))) = item.before rest := by
  rw [toList_styled]
  rfl

def titles : List String :=
  ["Summary", "Remarks", "Type parameters", "Parameters", "Returns", "Value", "Exceptions",
   "See also"]

theorem plain_title : ∀ title ∈ titles, ∀ c ∈ title.toList, c ≠ '[' ∧ c ≠ '\\' := by
  simp [titles]

theorem below_headed {title : String} (known : title ∈ titles) (lines : List String)
    (rest : List Char) :
    below (headed title lines) rest =
      (titleItem title).toHeading.before (below lines rest) := by
  rw [headed, below_cons, below_cons, toList_styled, Heading.before, titleItem,
    escape_plain (plain_title title known)]
  rfl

theorem below_textSection {title : String} (known : title ∈ titles) (text : Option String)
    (rest : List Char) :
    below (textSection title text) rest = (textItems title text).foldr Item.before rest := by
  unfold textSection textItems
  cases text.filter (!·.isEmpty) with
  | none => rfl
  | some s =>
    have same : (textItem title s).before rest =
        (titleItem title).toHeading.before (below [escape s] rest) := by
      simp only [Item.before, textItem, titleItem, below_cons, Blank.chars, List.cons_append,
        List.nil_append]
      rfl
    rw [Option.toList_some, List.map_singleton, List.map_singleton, List.foldr_cons,
      List.foldr_nil, same]
    exact below_headed known [escape s] rest

theorem below_notes {α : Type} {line : α → String} {item : α → Item}
    (same : ∀ note rest, '\n' :: ((line note).toList ++ rest) = (item note).before rest)
    {title : String} (known : title ∈ titles) (notes : List α) (rest : List Char) :
    below (ifAny title (notes.map line)) rest =
      (sectionItems title (notes.map item)).foldr Item.before rest := by
  have each : below (notes.map line) rest = (notes.map item).foldr Item.before rest := by
    induction notes with
    | nil => rfl
    | cons note more ih => rw [List.map_cons, List.map_cons, below_cons, ih, same]; rfl
  cases notes with
  | nil => rfl
  | cons note more =>
    rw [ifAny, sectionItems, List.isEmpty_map, List.isEmpty_map, List.isEmpty_cons,
      if_neg Bool.false_ne_true, if_neg Bool.false_ne_true, below_headed known, each]
    rfl

theorem below_parameterLine (note : ParameterNote) (rest : List Char) :
    '\n' :: ((parameterLine note).toList ++ rest) = (parameterItem note).before rest := by
  rw [← below_item, parameterLine]
  simp only [String.toList_append, List.append_assoc]
  rfl

theorem below_exceptionLine (note : ExceptionNote) (rest : List Char) :
    '\n' :: ((exceptionLine note).toList ++ rest) = (exceptionItem note).before rest := by
  rw [← below_item, exceptionLine]
  simp only [String.toList_append, List.append_assoc]
  rfl

theorem below_head (e : Entity) (rest : List Char) :
    below (head e) rest = (headItems e).foldr Item.before rest := by
  have word : ∀ c ∈ e.kind.word.toList, c ≠ '[' ∧ c ≠ '\\' := by
    cases e.kind <;> simp [Kind.word]
  have stem : ∀ c ∈ "file id:".toList, c ≠ '[' ∧ c ≠ '\\' := by simp
  rw [headItems, List.foldr_cons, List.foldr_cons, ← below_item, ← below_item, escape_plain word,
    escape_plain stem, head, below_cons, below_cons]
  simp only [String.toList_append, List.append_assoc]
  rfl

theorem below_links (e : Entity) :
    below (ifAny "See also" (e.seeAlso.map linkLine)) [] = linkLines e := by
  unfold ifAny linkLines
  rw [List.isEmpty_map]
  split
  · rfl
  · exact below_headed (by decide) _ _

theorem below_lines (e : Entity) :
    below (lines e) [] = (items e).foldr Item.before (linkLines e) := by
  simp (disch := decide) only [lines, items, below_append, List.foldr_append, below_head,
    below_links, below_textSection, below_notes below_parameterLine,
    below_notes below_exceptionLine]

end Items

section Links

def linkTexts (link : SeeAlso) : List (List Char) :=
  ((link.label.filter (!·.isEmpty)).toList ++ [link.target.getD ""]).map String.toList

theorem joined_links (links : List SeeAlso) :
    Joined (links.flatMap linkTexts) (below (links.map linkLine) []) := by
  induction links with
  | nil => exact .nil
  | cons link more ih =>
    rw [List.map_cons, below_cons, List.flatMap_cons, linkTexts, linkLine]
    cases link.label.filter (!·.isEmpty) with
    | none =>
      simp only [String.toList_append, List.append_assoc]
      exact .text "\n  ".toList (link.target.getD "") (by decide) ih
    | some label =>
      have target := Joined.text " (".toList (link.target.getD "") (by decide)
        (.plain ")".toList (by decide) ih)
      simp only [String.toList_append, List.append_assoc]
      exact .text "\n  ".toList label (by decide) target

end Links

section Written

def pair (style : String) : List (List Char) :=
  [style.toList, '/' :: style.toList]

def textTags (text : Option String) : List (List Char) :=
  if text = none ∨ text = some "" then [] else pair "bold"

def noteTags {α : Type} (style : String) (notes : List α) : List (List Char) :=
  if notes.isEmpty then [] else pair "bold" ++ notes.flatMap fun _ => pair style

def linkTags (e : Entity) : List (List Char) :=
  if e.seeAlso.isEmpty then [] else pair "bold"

def written (e : Entity) : List (List Char) :=
  pair "dim" ++ pair "dim" ++ textTags e.description ++ textTags e.remarks
    ++ noteTags "cyan" e.typeParameters ++ noteTags "cyan" e.parameters
    ++ textTags e.returns ++ textTags e.value ++ noteTags "red" e.exceptions ++ linkTags e

theorem filter_nonempty {s : String} (nonempty : s ≠ "") :
    (some s).filter (!·.isEmpty) = some s := by
  rw [Option.filter_some, if_pos (by simpa using nonempty)]

theorem written_textItems (title : String) (text : Option String) :
    (textItems title text).flatMap (·.written) = textTags text := by
  cases text with
  | none => rfl
  | some s =>
    by_cases empty : s = ""
    · subst empty
      rfl
    · rw [textItems, filter_nonempty empty, textTags, if_neg (by simpa using empty)]
      rfl

theorem written_sectionItems {α : Type} {style : String} {item : α → Item}
    (same : ∀ note, (item note).written = pair style) (title : String) (notes : List α) :
    (sectionItems title (notes.map item)).flatMap (·.written) = noteTags style notes := by
  cases notes with
  | nil => rfl
  | cons note more =>
    have each : ((note :: more).map item).flatMap (·.written) =
        (note :: more).flatMap fun _ => pair style := by
      rw [List.flatMap_map]
      exact congrArg (List.flatMap · _) (funext same)
    rw [sectionItems, if_neg (by simp), List.flatMap_cons, each]
    rfl

theorem written_eq (e : Entity) : written e = (items e).flatMap (·.written) ++ linkTags e := by
  have head : (headItems e).flatMap (·.written) = pair "dim" ++ pair "dim" := rfl
  have parameter (note : ParameterNote) : (parameterItem note).written = pair "cyan" := rfl
  have exception (note : ExceptionNote) : (exceptionItem note).written = pair "red" := rfl
  simp only [items, List.flatMap_append, head, written_textItems, written_sectionItems parameter,
    written_sectionItems exception]
  rfl

inductive Balanced : List (List Char) → Prop
  | nil : Balanced []
  | pair (style : List Char) {inner rest : List (List Char)} :
      Balanced inner → Balanced rest → Balanced (style :: (inner ++ ('/' :: style) :: rest))

theorem balanced_written (e : Entity) : Balanced (written e) := by
  have links : Balanced (linkTags e) := by
    unfold linkTags
    split
    · exact .nil
    · exact .pair _ .nil .nil
  rw [written_eq]
  induction items e with
  | nil => exact links
  | cons item more ih =>
    rw [List.flatMap_cons, List.append_assoc]
    exact .pair item.style.name.toList .nil ih

end Written

section Found

theorem tags_render (e : Entity) :
    tags (render e).toList = (items e).flatMap (·.found) ++ tagsAfter 0 (linkLines e) := by
  have apart : closes (linkLines e) = false := by
    unfold linkLines
    split
    · rfl
    · exact Heading.closes_before _ _
  have reset (run : Nat) : tagsAfter run (linkLines e) = tagsAfter 0 (linkLines e) := by
    unfold linkLines
    split
    · rw [tagsAfter_nil, tagsAfter_nil]
    · rw [Heading.tagsAfter_before, Heading.tagsAfter_before]
  rw [tags_eq_tagsAfter, ← tagsAfter_newline 0, newline_render, below_lines,
    Item.tagsAfter_items _ apart reset]

/-- Whether the texts of the links make up a tag. -/
def LinksStray (e : Entity) : Prop :=
  Strays (e.seeAlso.flatMap linkTexts)

theorem tagsAfter_linkLines (e : Entity) :
    tagsAfter 0 (linkLines e) = linkTags e ++ tagsAfter 0 (below (e.seeAlso.map linkLine) []) := by
  unfold linkLines linkTags
  cases e.seeAlso with
  | nil => rfl
  | cons link more =>
    have heading : (titleItem "See also").found = pair "bold" := by decide
    rw [if_neg (by simp), if_neg (by simp), Heading.tagsAfter_before, heading]

theorem found_eq_written {h : Heading} (kept : ¬Swallows h.label) : h.found = h.written := by
  rw [Heading.found, if_neg kept]
  rfl

theorem head?_ne_close (items : List Item) {last : List (List Char)} (style : Emphasis)
    (start : last.head? ≠ some ('/' :: style.name.toList)) :
    (items.flatMap (·.found) ++ last).head? ≠ some ('/' :: style.name.toList) := by
  cases items with
  | nil => exact start
  | cons item more =>
    intro same
    exact item.style.name_ne_close style (Option.some.inj same)

/-- A closing tag that is not found is missed: a tag that opens a style, or none, is in its place. -/
theorem found_eq_written_iff (items : List Item) {last written : List (List Char)}
    (start : ∀ style : Emphasis, last.head? ≠ some ('/' :: style.name.toList)) :
    items.flatMap (·.found) ++ last = items.flatMap (·.written) ++ written ↔
      (∀ item ∈ items, ¬Swallows item.label) ∧ last = written := by
  induction items with
  | nil => simp
  | cons item more ih =>
    rw [List.flatMap_cons, List.flatMap_cons, List.append_assoc, List.append_assoc,
      List.forall_mem_cons, and_assoc, ← ih]
    by_cases swallows : Swallows item.label
    · -- What follows begins with a tag that opens a style, where the closing one is written.
      refine iff_of_false ?_ (fun both => both.1 swallows)
      intro same
      rw [Heading.found, if_pos swallows, Heading.written] at same
      have next := (List.cons.inj same).2
      exact head?_ne_close more item.style (start _) (congrArg List.head? next)
    · rw [found_eq_written swallows]
      simp [swallows]

theorem not_swallows_title {title : String} (known : title ∈ titles) : ¬Swallows title :=
  not_swallows_plain (plain_title title known)

theorem kept_sectionItems {title : String} (known : title ∈ titles) (notes : List Item) :
    (∀ item ∈ sectionItems title notes, ¬Swallows item.label) ↔
      ∀ item ∈ notes, ¬Swallows item.label := by
  unfold sectionItems
  split
  · next none =>
    rw [List.isEmpty_iff] at none
    rw [none]
  · rw [List.forall_mem_cons]
    exact and_iff_right (not_swallows_title known)

theorem kept_textItems {title : String} (known : title ∈ titles) (text : Option String) :
    ∀ item ∈ textItems title text, ¬Swallows item.label := by
  intro item there
  obtain ⟨s, -, rfl⟩ := List.mem_map.mp there
  exact not_swallows_title known

theorem kept_headItems (e : Entity) : ∀ item ∈ headItems e, ¬Swallows item.label := by
  have word : ∀ kind : Kind, ¬Swallows kind.word := by
    intro kind
    cases kind <;> decide
  have stem : ¬Swallows "file id:" := by decide
  rw [headItems, List.forall_mem_cons, List.forall_mem_singleton]
  exact ⟨word e.kind, stem⟩

theorem kept_exceptionItem (note : ExceptionNote) :
    ¬Swallows (exceptionItem note).label ↔ ∀ cref, note.cref = some cref → ¬Swallows cref := by
  have unknown : ¬Swallows "?" := by decide
  have label : (exceptionItem note).label = (note.cref.filter (!·.isEmpty)).getD "?" := rfl
  rw [label]
  cases note.cref with
  | none => simp [unknown]
  | some cref =>
    by_cases empty : cref = ""
    · subst empty
      have none : ¬Swallows "" := by decide
      simp [none, unknown, Option.filter_some]
    · rw [filter_nonempty empty]
      simp

/-- An entity about which a report has exactly the tags that are written in it. -/
structure Clean (e : Entity) : Prop where
  names : ∀ note ∈ e.typeParameters ++ e.parameters, ¬Swallows note.name
  crefs : ∀ note ∈ e.exceptions, ∀ cref, note.cref = some cref → ¬Swallows cref
  links : ¬LinksStray e

theorem kept_items_iff (e : Entity) :
    (∀ item ∈ items e, ¬Swallows item.label) ↔
      (∀ note ∈ e.typeParameters ++ e.parameters, ¬Swallows note.name) ∧
      ∀ note ∈ e.exceptions, ∀ cref, note.cref = some cref → ¬Swallows cref := by
  have parameter (note : ParameterNote) : (parameterItem note).label = note.name := rfl
  have text (title : String) (known : title ∈ titles) (text : Option String) :
      (∀ item ∈ textItems title text, ¬Swallows item.label) = True :=
    eq_true (kept_textItems known text)
  simp (disch := decide) only [items, List.forall_mem_append, eq_true (kept_headItems e), text,
    kept_sectionItems, List.forall_mem_map, kept_exceptionItem, parameter, true_and, and_true]

theorem tags_render_eq_iff (e : Entity) : tags (render e).toList = written e ↔ Clean e := by
  have start (style : Emphasis) :
      (tagsAfter 0 (linkLines e)).head? ≠ some ('/' :: style.name.toList) := by
    unfold linkLines
    split
    · rw [tagsAfter_nil]
      nofun
    · rw [Heading.tagsAfter_before]
      intro same
      exact Emphasis.bold.name_ne_close style (Option.some.inj same)
  rw [tags_render, written_eq, found_eq_written_iff _ start, tagsAfter_linkLines,
    List.append_right_eq_self, (joined_links e.seeAlso).tagsAfter_eq_nil_iff, kept_items_iff]
  exact ⟨fun ⟨⟨names, crefs⟩, links⟩ => ⟨names, crefs, links⟩,
    fun ⟨names, crefs, links⟩ => ⟨⟨names, crefs⟩, links⟩⟩

example :
    tags (render { Entity.new .type none none none none with
      details := .type [⟨"T\\\\\\", ""⟩] }).toList =
    ["dim", "/dim", "dim", "/dim", "bold", "/bold", "cyan"].map String.toList := by
  decide

/-- A report can be shown unless the texts of the links make up a tag. -/
theorem exists_plain_render (pictographs : Pictographs) {e : Entity} (apart : ¬LinksStray e) :
    ∃ shown, plain pictographs (render e) = .ok shown := by
  have noMore := (joined_links e.seeAlso).tagsAfter_eq_nil_iff.mpr apart
  refine exists_plain pictographs ?_
  rw [tags_render, tagsAfter_linkLines, noMore, List.append_nil]
  refine Item.shows_items (items e) (fun tags bare => ?_) {} nofun
  unfold linkTags
  split
  · exact .done bare
  · exact (titleItem "See also").toHeading.shows bare fun _ => .done

end Found

end Apidoc.Report
