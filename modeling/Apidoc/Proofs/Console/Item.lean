import Apidoc.Proofs.Console.Escape

/-!
The form that messages and reports are made of: a label in a style on a new line, and a text after
it, both escaped. The tag that opens the style is always found, and so is the one that closes it,
unless the label ends in backslashes that take the meaning from it.
-/
namespace Apidoc.Console

inductive Emphasis where
  | dim
  | bold
  | cyan
  | red

namespace Emphasis

def name : Emphasis → String
  | dim => "dim"
  | bold => "bold"
  | cyan => "cyan"
  | red => "red"

theorem isBody_name (style : Emphasis) :
    isBody style.name.toList = true ∧ isBody ('/' :: style.name.toList) = true := by
  cases style <;> decide

theorem name_ne_close (style other : Emphasis) : style.name.toList ≠ '/' :: other.name.toList := by
  cases style <;> simp [name]

theorem take_name (style : Emphasis) (tags : Tags) (start : Nat) :
    tags.take start style.name.toList =
      .ok { tags with opened := ⟨style.name, none⟩ :: tags.opened } := by
  cases style <;> rfl

theorem take_close (style : Emphasis) (opened closed : List OpenTag) (start : Nat) :
    Tags.take ⟨⟨style.name, none⟩ :: opened, closed⟩ start ('/' :: style.name.toList) =
      .ok ⟨opened, ⟨style.name, none⟩ :: closed⟩ := by
  cases style <;> rfl

end Emphasis

inductive Blank where
  | none
  | space
  | spaces
  | newline

namespace Blank

def chars : Blank → List Char
  | none => []
  | space => [' ']
  | spaces => [' ', ' ']
  | newline => ['\n']

theorem isPlain_chars (blank : Blank) : isPlain blank.chars = true := by
  cases blank <;> decide

end Blank

structure Heading where
  indent : Blank := .none
  style : Emphasis
  label : String

namespace Heading

def before (h : Heading) (rest : List Char) : List Char :=
  '\n' :: (h.indent.chars ++ '[' :: (h.style.name.toList ++ ']' ::
    ((escape h.label).toList ++ '[' :: (('/' :: h.style.name.toList) ++ ']' :: rest))))

def written (h : Heading) : List (List Char) :=
  [h.style.name.toList, '/' :: h.style.name.toList]

def found (h : Heading) : List (List Char) :=
  h.style.name.toList :: if Swallows h.label then [] else ['/' :: h.style.name.toList]

theorem closes_before (h : Heading) (rest : List Char) : closes (h.before rest) = false := by
  have free : noBracket ('\n' :: h.indent.chars) = true :=
    noBracket_cons.mpr ⟨by decide, noBracket_of_isPlain h.indent.isPlain_chars⟩
  rw [before, ← List.cons_append, closes_append free, closes_cons]
  rfl

theorem tagsAfter_before (h : Heading) (run : Nat) (rest : List Char) :
    tagsAfter run (h.before rest) = h.found ++ tagsAfter 0 rest := by
  have apart (s : List Char) : closes ('[' :: s) = false := by
    rw [closes_cons]
    rfl
  rw [before, tagsAfter_newline, tagsAfter_plain (ne_of_isPlain h.indent.isPlain_chars) (.inl rfl),
    tagsAfter_tag h.style.isBody_name.1, tagsAfter_escape (apart _),
    tagsAfter_tag h.style.isBody_name.2]
  by_cases even : escapedBackslashes h.label % 2 = 0
  · simp [found, swallows_iff, even]
  · simp [found, swallows_iff, even]

/-- A heading can be shown wherever what comes after it can. -/
theorem shows (h : Heading) {tags : Tags} (bare : tags.Bare) {more : List (List Char)}
    (later : ∀ taken : Tags, taken.Bare → Shows taken more) : Shows tags (h.found ++ more) := by
  have opened : Tags.Bare ⟨⟨h.style.name, none⟩ :: tags.opened, tags.closed⟩ := by
    intro tag there
    rw [List.cons_append, List.mem_cons] at there
    obtain rfl | there := there
    · rfl
    · exact bare tag there
  have closed : Tags.Bare ⟨tags.opened, ⟨h.style.name, none⟩ :: tags.closed⟩ := by
    intro tag there
    rw [List.mem_append, List.mem_cons, or_left_comm, ← List.mem_append] at there
    obtain rfl | there := there
    · rfl
    · exact bare tag there
  rw [found, List.cons_append]
  refine .next (h.style.take_name tags) ?_
  split
  · exact later _ opened
  · exact .next (h.style.take_close tags.opened tags.closed) (later _ closed)

end Heading

structure Item extends Heading where
  gap : Blank := .none
  body : String := ""

namespace Item

def before (item : Item) (rest : List Char) : List Char :=
  item.toHeading.before (item.gap.chars ++ ((escape item.body).toList ++ rest))

theorem tagsAfter_before (item : Item) (run : Nat) {rest : List Char}
    (apart : closes rest = false) :
    tagsAfter run (item.before rest) =
      item.found ++ tagsAfter (escapedBackslashes item.body) rest := by
  rw [before, item.toHeading.tagsAfter_before, tagsAfter_plain
    (ne_of_isPlain item.gap.isPlain_chars) (.inl rfl), tagsAfter_escape apart]

theorem closes_items (items : List Item) {rest : List Char} (apart : closes rest = false) :
    closes (items.foldr before rest) = false := by
  cases items with
  | nil => exact apart
  | cons item more => exact item.closes_before _

theorem tagsAfter_items (items : List Item) {rest : List Char} (apart : closes rest = false)
    (reset : ∀ run, tagsAfter run rest = tagsAfter 0 rest) (run : Nat) :
    tagsAfter run (items.foldr before rest) =
      items.flatMap (·.found) ++ tagsAfter 0 rest := by
  induction items generalizing run with
  | nil => exact reset run
  | cons item more ih =>
    rw [List.foldr_cons, item.tagsAfter_before run (closes_items more apart), ih,
      List.flatMap_cons, List.append_assoc]

theorem shows_items (items : List Item) {more : List (List Char)}
    (later : ∀ tags : Tags, tags.Bare → Shows tags more) (tags : Tags) (bare : tags.Bare) :
    Shows tags (items.flatMap (·.found) ++ more) := by
  induction items generalizing tags with
  | nil => exact later tags bare
  | cons item rest ih =>
    rw [List.flatMap_cons, List.append_assoc]
    exact item.shows bare ih

end Item

end Apidoc.Console
