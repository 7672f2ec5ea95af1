import Apidoc.Proofs.Stem.Safety
import Apidoc.Proofs.Text.Tidy

/-!
The stem of a stem is that stem. A stem whose words are parted by single replacements, with none at
either end, has nothing in it to replace, collapse or strip; lower case and cutting keep that form as
long as the replacement can come from nowhere else: not from the mark of a cut, and not from another
character in lower case.

Looking at characters one by one is not enough for that. The final sigma is in the lower-case form of
no other character alone, yet a capital sigma becomes one at the end of a word.
-/
namespace Apidoc.Stem

open Text (Tidy)

variable {r c : Char} {s t : List Char} {id : String} {maxLength : Int} {lowercase : Bool}

/-- Replacements that can come into a stem from nowhere else, as far as characters by themselves can
tell: they are safe, they mark no cut, and no other character has them in its lower-case form. -/
structure StaysApart (r : Char) : Prop where
  safe : isUnsafe r = false
  unmarked : r ∉ cutChars
  uncased : ∀ c, c ≠ r → r ∉ Text.lower [c]

theorem StaysApart.plain (apart : StaysApart r) : r ≠ '\\' := by
  rintro rfl
  exact absurd apart.safe (by decide)

theorem lower_singleton (c : Char) :
    Text.lower [c] = if c == '\u03A3' then ['\u03C3'] else Text.lowerChar c := by
  rw [Text.lower, Text.lowerFrom, Text.lowerFrom, List.append_nil]
  rfl

/-- Only the final form of the capital sigma depends on more than the character. -/
theorem StaysApart.own_of_form (apart : StaysApart r) {form : List Char} (isForm : Text.IsForm c form)
    (there : r ∈ form) : c = r ∨ (c = '\u03A3' ∧ r = '\u03C2') := by
  by_contra other
  simp only [not_or] at other
  have absent := apart.uncased c other.1
  rw [lower_singleton] at absent
  cases isForm with
  | sigma => exact absent there
  | finalSigma => exact other.2 ⟨rfl, List.mem_singleton.mp there⟩
  | alone notSigma =>
    rw [if_neg (by simpa using notSigma)] at absent
    exact absent there

theorem tidy_joined (some : tokens r id ≠ []) : Tidy r (joined r id) := by
  apply Tidy.intercalate some
  intro t there
  obtain ⟨nonempty, absent, -⟩ := free_of_mem_tokens there
  exact ⟨nonempty, absent⟩

theorem tidy_inCase (apart : StaysApart r) (tidy : Tidy r s)
    (noFinal : r = '\u03C2' → lowercase = true → '\u03A3' ∉ s) : Tidy r (inCase lowercase s) := by
  cases lowercase with
  | false => exact tidy
  | true =>
    obtain ⟨forms, same, each⟩ := Text.lower_forms s
    rw [inCase, if_pos rfl, same]
    apply tidy.flatten_forms each
    intro c listed form isForm there
    rcases apart.own_of_form isForm there with own | ⟨sigma, final⟩
    · exact own
    · rw [sigma] at listed
      exact absurd listed (noFinal final rfl)

theorem tidy_shorten (apart : StaysApart r) (room : 10 ≤ maxLength) (tidy : Tidy r s) (id : String) :
    Tidy r (shorten maxLength id s) := by
  by_cases fits : s.length ≤ maxLength
  · rwa [shorten_of_le fits]
  · rw [shorten_of_lt room (Int.not_le.mp fits)]
    exact tidy.take_append (List.cons_ne_nil _ _) (fun mark => apart.unmarked (mem_cutChars mark)) _

theorem isLower_of_mem_cutChars (there : c ∈ cutChars) : Text.IsLower c := by
  have low : (cutChars.all fun c => c != '\u03A3' && Text.lowerChar c == [c]) = true := by
    decide +kernel
  have kept := List.all_eq_true.mp low c there
  rw [Bool.and_eq_true, bne_iff_ne, beq_iff_eq] at kept
  exact ⟨kept.1, kept.2⟩

/-- A text that is its own stem, whatever the replacement was that it was made with. -/
structure Settled (maxLength : Int) (lowercase : Bool) (s : List Char) : Prop where
  nonempty : s ≠ []
  safe : ∀ c ∈ s, isUnsafe c = false
  inCase : inCase lowercase s = s
  short : s.length ≤ maxLength

theorem settled_shorten (room : 10 ≤ maxLength) (safe : ∀ c ∈ s, isUnsafe c = false)
    (nonempty : shorten maxLength id (inCase lowercase s) ≠ []) :
    Settled maxLength lowercase (shorten maxLength id (inCase lowercase s)) := by
  refine ⟨nonempty, ?_, ?_, length_shorten room id _⟩
  · intro c there
    by_contra risky
    rw [Bool.not_eq_false] at risky
    rw [safe c (mem_of_mem_shorten room there risky)] at risky
    cases risky
  · cases lowercase with
    | false => rfl
    | true =>
      apply Text.lower_eq_self
      intro c there
      rcases mem_shorten room there with kept | mark
      · exact Text.isLower_of_mem_lower kept
      · exact isLower_of_mem_cutChars mark

theorem Settled.render_empty (settled : Settled maxLength lowercase s) :
    render ⟨"", maxLength, lowercase⟩ (String.ofList s) = .ok (String.ofList s) := by
  have same : stripped (String.ofList s) = s := by
    rw [stripped, String.toList_ofList, List.filter_eq_self]
    intro c there
    simp [settled.safe c there]
  rw [Stem.render_empty _ _ (by simpa using settled.nonempty), same, settled.inCase,
    shorten_of_le settled.short]

theorem joined_of_tidy (tidy : Tidy r s) (safe : ∀ c ∈ s, isUnsafe c = false) :
    joined r (String.ofList s) = s := by
  have same : tokens r (String.ofList s) = Text.piecesBetween (· == r) s := by
    have unchanged : (s.map fun c => if isUnsafe c then r else c) = s :=
      calc (s.map fun c => if isUnsafe c then r else c)
        _ = s.map id := List.map_congr_left fun c there => by simp [safe c there]
        _ = s := List.map_id s
    rw [tokens, String.toList_ofList, ← piecesBetween_replaced, unchanged]
  rw [joined, same, Text.intercalate_piecesBetween tidy.nil_not_mem_splitAtEach]

theorem Settled.render_singleton (settled : Settled maxLength lowercase s) (plain : r ≠ '\\')
    (tidy : Tidy r s) :
    render ⟨String.singleton r, maxLength, lowercase⟩ (String.ofList s) = .ok (String.ofList s) := by
  rw [Stem.render_singleton plain _ _ (by simpa using settled.nonempty),
    joined_of_tidy tidy settled.safe, settled.inCase, shorten_of_le settled.short]

theorem shorten_inCase_nil (room : 10 ≤ maxLength) (lowercase : Bool) (id : String) :
    shorten maxLength id (inCase lowercase []) = [] := by
  have nothing : inCase lowercase [] = [] := by cases lowercase <;> rfl
  rw [nothing, shorten_of_le (by simp only [List.length_nil]; omega)]

/-- A stem that is not empty is its own stem, cut or not, if the replacement is empty or stays apart;
where stems are in lower case and the final sigma is the replacement, the id must be without capital
ones. -/
theorem render_idempotent {replacement : String}
    (apart : replacement = "" ∨ ∃ r, replacement = String.singleton r ∧ StaysApart r)
    {maxLength : Int} (room : 10 ≤ maxLength) {lowercase : Bool} {id : String} (nonempty : id ≠ "")
    (noFinal : replacement = String.singleton '\u03C2' → lowercase = true → '\u03A3' ∉ id.toList) :
    ∃ stem, render ⟨replacement, maxLength, lowercase⟩ id = .ok stem ∧
      (stem ≠ "" → render ⟨replacement, maxLength, lowercase⟩ stem = .ok stem) := by
  rcases apart with rfl | ⟨r, rfl, apart⟩
  · refine ⟨_, render_empty maxLength lowercase nonempty, ?_⟩
    intro filled
    have settled := settled_shorten room (fun c there => isUnsafe_of_mem_stripped there)
      (by simpa using filled)
    exact settled.render_empty
  · refine ⟨_, render_singleton apart.plain maxLength lowercase nonempty, ?_⟩
    intro filled
    have safe : ∀ c ∈ joined r id, isUnsafe c = false := by
      intro c there
      rcases mem_joined there with rfl | ⟨-, safe⟩
      · exact apart.safe
      · exact safe
    have settled := settled_shorten room safe (by simpa using filled)
    -- Without tokens there would be no stem, as nothing is not long enough to be cut.
    have some : tokens r id ≠ [] := by
      intro none
      apply settled.nonempty
      rw [joined, none, List.intercalate_nil, shorten_inCase_nil room]
    have noCapital : r = '\u03C2' → lowercase = true → '\u03A3' ∉ joined r id := by
      rintro rfl lowered capital
      rcases mem_joined capital with same | ⟨listed, -⟩
      · exact absurd same (by decide)
      · exact noFinal rfl lowered listed
    exact settled.render_singleton apart.plain
      (tidy_shorten apart room (tidy_inCase apart (tidy_joined some) noCapital) id)

theorem staysApart_of_not_mem (safe : isUnsafe r = false) (unmarked : r ∉ cutChars)
    (notSmall : r ≠ '\u03C3') (unlowered : r.toNat ∉ Text.loweredCodes.flatten) : StaysApart r := by
  refine ⟨safe, unmarked, ?_⟩
  intro c other there
  rw [lower_singleton] at there
  split at there
  · exact notSmall (List.mem_singleton.mp there)
  · exact unlowered (Text.mem_loweredCodes there (Ne.symm other))

theorem loweredCodes_apart_samples :
    Text.maskAll [['_'.toNat, '\u03C2'.toNat]] &&& Text.maskAll Text.loweredCodes = 0 := by
  decide +kernel

theorem staysApart_underscore : StaysApart '_' :=
  staysApart_of_not_mem (by decide) (by decide) (by decide)
    (Text.not_mem_of_maskAll loweredCodes_apart_samples (by simp))

theorem staysApart_finalSigma : StaysApart '\u03C2' :=
  staysApart_of_not_mem (by decide) (by decide) (by decide)
    (Text.not_mem_of_maskAll loweredCodes_apart_samples (by simp))

/-- A stem that is cut right behind a replacement. -/
theorem render_idempotent_cut :
    ∃ stem, render ⟨"_", 11, true⟩ "T:Acme.Widget" = .ok stem ∧
      stem.toList = 't' :: '_' :: '-' :: digest "T:Acme.Widget" ∧
      render ⟨"_", 11, true⟩ stem = .ok stem := by
  obtain ⟨stem, rendered, again⟩ := render_idempotent (.inr ⟨'_', rfl, staysApart_underscore⟩)
    (show (10 : Int) ≤ 11 by decide) (show "T:Acme.Widget" ≠ "" by decide)
    (fun final (_ : true = true) => absurd final (by decide))
  have whole : inCase true (joined '_' "T:Acme.Widget") = "t_acme.widget".toList := by decide +kernel
  have chars : stem.toList = 't' :: '_' :: '-' :: digest "T:Acme.Widget" := by
    have same := rendered.symm.trans
      (render_singleton (show '_' ≠ '\\' by decide) 11 true (show "T:Acme.Widget" ≠ "" by decide))
    rw [whole, Except.ok.injEq] at same
    rw [same, String.toList_ofList]
    rfl
  refine ⟨stem, rendered, chars, again ?_⟩
  rintro rfl
  cases chars

/-- By characters alone the final sigma stays apart, but the stem of a stem that ends in one is
shorter. -/
theorem finalSigma_stripped_again :
    ¬∀ (replacement : String) (maxLength : Int) (lowercase : Bool) (id stem : String),
      (replacement = "" ∨ ∃ r, replacement = String.singleton r ∧ StaysApart r) →
      10 ≤ maxLength → id ≠ "" → render ⟨replacement, maxLength, lowercase⟩ id = .ok stem →
      stem ≠ "" → render ⟨replacement, maxLength, lowercase⟩ stem = .ok stem := by
  intro always
  have plain : '\u03C2' ≠ '\\' := by decide
  have first : render ⟨String.singleton '\u03C2', 128, true⟩ "AΣ" = .ok "aς" := by
    have whole : inCase true (joined '\u03C2' "AΣ") = "aς".toList := by decide +kernel
    rw [render_singleton plain 128 true (by decide), whole]
    rfl
  have second : render ⟨String.singleton '\u03C2', 128, true⟩ "aς" = .ok "a" := by
    have whole : inCase true (joined '\u03C2' "aς") = "a".toList := by decide +kernel
    rw [render_singleton plain 128 true (by decide), whole]
    rfl
  have same := always _ 128 true "AΣ" "aς" (.inr ⟨_, rfl, staysApart_finalSigma⟩) (by decide)
    (by decide) first (by decide)
  rw [second, Except.ok.injEq] at same
  exact absurd same (by decide)

end Apidoc.Stem
