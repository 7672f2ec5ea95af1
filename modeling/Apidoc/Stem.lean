import Apidoc.Digest.Sha1
import Apidoc.Stem.Template
import Apidoc.Text.Lower
import Apidoc.Text.Slice

/-!
File stems for member ids. Ids carry characters that are invalid or awkward in file names; a stem
is a readable text without them, cut to a given length with a digest of the id so that long ids
stay apart.
-/
namespace Apidoc.Stem

/-- The characters that do not go into a file name: those that file systems refuse, white space,
and the brackets and marks of generic and parameter syntax. -/
def isUnsafe (c : Char) : Bool :=
  "<>:\"/\\|?*()[]\x7b\x7d,`#@~!".toList.contains c || Text.isBlank c

/-- How stems are made. The replacement is a template for what stands in place of an unsafe
character. -/
structure Options where
  replacement : String := "_"
  maxLength : Int := 128
  lowercase : Bool := false

inductive Fault where
  | emptyId
  | template (fault : TemplateFault)

def Fault.message : Fault → String
  | .emptyId => "member_id must be a non-empty string"
  | .template fault => fault.message

def repeats (block s : List Char) : Nat :=
  if h : block ≠ [] ∧ block.isPrefixOf s then 1 + repeats block (s.drop block.length) else 0
termination_by s.length
decreasing_by
  obtain ⟨nonempty, front⟩ := h
  have fits := (List.isPrefixOf_iff_prefix.mp front).length_le
  have := List.length_pos_iff.mpr nonempty
  simp only [List.length_drop]
  omega

def collapse (block : List Char) (replace : List Char → List Char) : List Char → List Char
  | [] => []
  | c :: rest =>
    let count := repeats block (c :: rest)
    if 2 ≤ count then
      let run := count * block.length
      replace ((c :: rest).take run) ++ collapse block replace (rest.drop (run - 1))
    else c :: collapse block replace rest
termination_by s => s.length
decreasing_by
  · simp only [List.length_drop, List.length_cons]
    omega
  · simp

def digestLength : Nat := 8

def digest (id : String) : List Char :=
  (Digest.sha1Hex id).take digestLength

def shorten (maxLength : Int) (id : String) (stem : List Char) : List Char :=
  if (stem.length : Int) > maxLength then
    Text.takeUpTo (maxLength - digestLength - 1) stem ++ '-' :: digest id
  else stem

/-- The stem before it is put in lower case and cut: unsafe characters replaced, runs of the
replacement collapsed, and its characters dropped from both ends. -/
def clean (replacement : List Char) (template : Template) (id : List Char) : List Char :=
  let replaced := id.flatMap fun c => if isUnsafe c then template.fill [c] else [c]
  if replacement.isEmpty then replaced
  else Text.stripEnds replacement.contains (collapse replacement template.fill replaced)

def render (options : Options) (id : String) : Except Fault String := do
  if id.isEmpty then throw .emptyId
  let template ← (Template.read options.replacement).mapError .template
  let stem := clean options.replacement.toList template id.toList
  let stem := if options.lowercase then Text.lower stem else stem
  return String.ofList (shorten options.maxLength id stem)

end Apidoc.Stem
