import Apidoc.Proofs.Catalog.Faults
import Apidoc.Proofs.Settings.Checked
import Apidoc.Proofs.Stem.Tokens
import Apidoc.Proofs.Text.Lower

/-!
Stems are short, and safe as names of files. Whatever an id holds, the only unsafe character that can
be left in its stem is the replacement: no character becomes an unsafe one in lower case, and the mark
of a cut is made of a hyphen and hexadecimal digits.
-/
namespace Apidoc

namespace Digest

def hexChars : List Char := "0123456789abcdef".toList

theorem hexDigit_mem (n : Nat) : hexDigit n ∈ hexChars := by
  rw [hexDigit, List.getD_eq_getElem?_getD]
  cases found : "0123456789abcdef".toList[n]? with
  | none => decide
  | some c => exact List.mem_of_getElem? found

theorem length_hexDigits (count n : Nat) : (hexDigits count n).length = count := by
  induction count generalizing n with
  | zero => rfl
  | succ count ih => rw [hexDigits, List.length_append, ih, List.length_singleton]

theorem mem_hexChars_of_mem_hexDigits {count n : Nat} {c : Char} (there : c ∈ hexDigits count n) :
    c ∈ hexChars := by
  induction count generalizing n with
  | zero => cases there
  | succ count ih =>
    rw [hexDigits, List.mem_append, List.mem_singleton] at there
    rcases there with front | rfl
    · exact ih front
    · exact hexDigit_mem _

theorem length_sha1Hex (text : String) : (sha1Hex text).length = 40 := by
  simp only [sha1Hex, Sha1State.toList, List.flatMap_cons, List.flatMap_nil, List.length_append,
    length_hexDigits, List.length_nil]

theorem mem_hexChars_of_mem_sha1Hex {text : String} {c : Char} (there : c ∈ sha1Hex text) :
    c ∈ hexChars := by
  obtain ⟨word, -, inside⟩ := List.mem_flatMap.mp there
  exact mem_hexChars_of_mem_hexDigits inside

end Digest

namespace Stem

variable {r c : Char} {s : List Char} {id : String} {maxLength : Int}

theorem length_digest (id : String) : (digest id).length = 8 := by
  rw [digest, List.length_take, Digest.length_sha1Hex]
  rfl

def cutChars : List Char := '-' :: Digest.hexChars

theorem mem_cutChars (there : c ∈ '-' :: digest id) : c ∈ cutChars := by
  rcases List.mem_cons.mp there with rfl | digit
  · exact List.mem_cons_self
  · exact List.mem_cons_of_mem _ (Digest.mem_hexChars_of_mem_sha1Hex (List.mem_of_mem_take digit))

theorem length_shorten (room : 10 ≤ maxLength) (id : String) (s : List Char) :
    (shorten maxLength id s).length ≤ maxLength := by
  by_cases fits : s.length ≤ maxLength
  · rwa [shorten_of_le fits]
  · rw [shorten_of_lt room (Int.not_le.mp fits), List.length_append, List.length_cons,
      length_digest, List.length_take]
    omega

theorem mem_shorten (room : 10 ≤ maxLength) (there : c ∈ shorten maxLength id s) :
    c ∈ s ∨ c ∈ cutChars := by
  by_cases fits : s.length ≤ maxLength
  · rw [shorten_of_le fits] at there
    exact .inl there
  · rw [shorten_of_lt room (Int.not_le.mp fits), List.mem_append] at there
    rcases there with kept | mark
    · exact .inl (List.mem_of_mem_take kept)
    · exact .inr (mem_cutChars mark)

theorem mem_joined (there : c ∈ joined r id) : c = r ∨ c ∈ id.toList ∧ isUnsafe c = false := by
  rcases Text.mem_intercalate there with between | ⟨token, listed, inside⟩
  · exact .inl (List.mem_singleton.mp between)
  · exact .inr ⟨Text.mem_of_mem_piecesBetween listed inside, (free_of_mem_tokens listed).2.2 c inside⟩

def riskyCodes : List Nat :=
  "<>:\"/\\|?*()[]\x7b\x7d,`#@~!".toList.map Char.toNat ++
    (List.range' 0x09 5 ++ List.range' 0x1C 5 ++ List.range' 0x2000 11 ++
      [0x85, 0xA0, 0x1680, 0x2028, 0x2029, 0x202F, 0x205F, 0x3000])

theorem toNat_mem_riskyCodes (risky : isUnsafe c = true) : c.toNat ∈ riskyCodes := by
  rw [isUnsafe, Bool.or_eq_true, List.contains_iff_mem] at risky
  rcases risky with mark | blank
  · exact List.mem_append_left _ (List.mem_map_of_mem mark)
  · apply List.mem_append_right
    simp only [Text.isBlank, Bool.or_eq_true, Bool.and_eq_true, decide_eq_true_eq, beq_iff_eq] at blank
    simp only [List.mem_append, List.mem_range'_1, List.mem_cons, List.not_mem_nil, or_false]
    omega

theorem riskyCodes_apart : Text.maskAll Text.loweredCodes &&& Text.maskAll [riskyCodes] = 0 := by
  decide +kernel

theorem isUnsafe_of_mem_cutChars (there : c ∈ cutChars) : isUnsafe c = false := by
  have safe : (cutChars.all fun c => !isUnsafe c) = true := by decide +kernel
  simpa using List.all_eq_true.mp safe c there

/-- No character becomes an unsafe one in lower case. -/
theorem mem_of_mem_lower (there : c ∈ Text.lower s) (risky : isUnsafe c = true) : c ∈ s := by
  obtain ⟨d, listed, form, isForm, inside⟩ := Text.exists_form_of_mem_lower there
  cases isForm with
  | sigma =>
    rw [List.mem_singleton.mp inside] at risky
    exact absurd risky (by decide)
  | finalSigma =>
    rw [List.mem_singleton.mp inside] at risky
    exact absurd risky (by decide)
  | alone _ =>
    by_cases same : c = d
    · rwa [same]
    · have lowered := Text.mem_loweredCodes inside same
      have apart := Text.not_mem_of_maskAll riskyCodes_apart lowered
      rw [List.flatten_singleton] at apart
      exact absurd (toNat_mem_riskyCodes risky) apart

theorem mem_of_mem_inCase {lowercase : Bool} (there : c ∈ inCase lowercase s)
    (risky : isUnsafe c = true) : c ∈ s := by
  cases lowercase with
  | false => exact there
  | true => exact mem_of_mem_lower there risky

def stripped (id : String) : List Char :=
  id.toList.filter fun c => !isUnsafe c

theorem clean_empty (id : String) : clean [] [] id.toList = stripped id := by
  rw [clean, stripped]
  simp only [List.isEmpty_nil, if_true]
  induction id.toList with
  | nil => rfl
  | cons c rest ih =>
    rw [List.flatMap_cons, ih, List.filter_cons]
    cases isUnsafe c <;> rfl

/-- The stem of an id under the empty replacement. -/
theorem render_empty (maxLength : Int) (lowercase : Bool) (nonempty : id ≠ "") :
    render ⟨"", maxLength, lowercase⟩ id =
      .ok (String.ofList (shorten maxLength id (inCase lowercase (stripped id)))) := by
  have literal : '\\' ∉ "".toList := by decide
  rw [render_eq ⟨"", maxLength, lowercase⟩ literal nonempty, ← clean_empty]
  rfl

theorem isUnsafe_of_mem_stripped (there : c ∈ stripped id) : isUnsafe c = false := by
  simpa using (List.mem_filter.mp there).2

/-- Neither lower case nor the mark of a cut brings an unsafe character into a text. -/
theorem mem_of_mem_shorten {lowercase : Bool} (room : 10 ≤ maxLength)
    (there : c ∈ shorten maxLength id (inCase lowercase s)) (risky : isUnsafe c = true) : c ∈ s := by
  rcases mem_shorten room there with kept | mark
  · exact mem_of_mem_inCase kept risky
  · rw [isUnsafe_of_mem_cutChars mark] at risky
    cases risky

end Stem

namespace Settings

/-- Before its case is changed and it is cut, a stem has no unsafe character but the replacement. -/
theorem exists_cleaned {settings : Settings} (short : settings.replacement.length ≤ 1)
    {id stem : String} (nonempty : id ≠ "")
    (rendered : Stem.render settings.stemOptions id = .ok stem) :
    ∃ cleaned,
      stem.toList = Stem.shorten settings.maxLength id (Stem.inCase settings.lowercase cleaned) ∧
        ∀ c ∈ cleaned, Stem.isUnsafe c = true → settings.replacement = String.singleton c := by
  rcases replacement_cases short with empty | ⟨r, single⟩
  · rw [stemOptions, empty, Stem.render_empty _ _ nonempty, Except.ok.injEq] at rendered
    refine ⟨Stem.stripped id, by rw [← rendered, String.toList_ofList], ?_⟩
    intro c there risky
    rw [Stem.isUnsafe_of_mem_stripped there] at risky
    cases risky
  · have plain : r ≠ '\\' := by
      rintro rfl
      rw [Stem.render_backslash single nonempty] at rendered
      cases rendered
    rw [stemOptions, single, Stem.render_singleton plain _ _ nonempty, Except.ok.injEq] at rendered
    refine ⟨Stem.joined r id, by rw [← rendered, String.toList_ofList], ?_⟩
    intro c there risky
    rcases Stem.mem_joined there with rfl | ⟨-, safe⟩
    · exact single
    · rw [safe] at risky
      cases risky

/-- Under accepted settings a stem is not longer than they allow, and every unsafe character in it is
the replacement. -/
theorem accepted_stem_safe {values : Values} {settings : Settings}
    (accepted : ofValues values = .ok settings) {id stem : String} (nonempty : id ≠ "")
    (rendered : Stem.render settings.stemOptions id = .ok stem) :
    stem.length ≤ settings.maxLength ∧
      (∀ c ∈ stem.toList, Stem.isUnsafe c = true → settings.replacement = String.singleton c) ∧
      ((∀ c ∈ settings.replacement.toList, Stem.isUnsafe c = false) →
        ∀ c ∈ stem.toList, Stem.isUnsafe c = false) := by
  have room : 10 ≤ settings.maxLength := (ofValues_ok accepted .maxLength).2
  have short : settings.replacement.length ≤ 1 := (ofValues_ok accepted .replacement).2
  obtain ⟨cleaned, made, marks⟩ := exists_cleaned short nonempty rendered
  have only : ∀ c ∈ stem.toList, Stem.isUnsafe c = true →
      settings.replacement = String.singleton c := by
    intro c there risky
    rw [made] at there
    exact marks c (Stem.mem_of_mem_shorten room there risky) risky
  refine ⟨?_, only, ?_⟩
  · rw [← String.length_toList, made]
    exact Stem.length_shorten room id _
  · intro safe c there
    by_contra risky
    rw [Bool.not_eq_false] at risky
    have same := only c there risky
    rw [safe c (by rw [same, String.toList_singleton]; exact List.mem_singleton_self c)] at risky
    cases risky

theorem accepted_stem_safe_dotted :
    ofValues [("normalized_id_max_length", .integer 10), ("lowercase_normalized_ids", .flag true)] =
        .ok { maxLength := 10, lowercase := true } ∧
      ∃ stem, Stem.render (stemOptions { maxLength := 10, lowercase := true }) "T:İİİİİ" = .ok stem ∧
        (stem.length : Int) ≤ 10 ∧ ∀ c ∈ stem.toList, Stem.isUnsafe c = false := by
  have accepted : ofValues [("normalized_id_max_length", .integer 10),
      ("lowercase_normalized_ids", .flag true)] = .ok { maxLength := 10, lowercase := true } := by rfl
  obtain ⟨stem, rendered⟩ := Stem.render_plain (stemOptions { maxLength := 10, lowercase := true })
    (by decide) (show "T:İİİİİ" ≠ "" by decide)
  obtain ⟨short, -, safe⟩ := accepted_stem_safe accepted (by decide) rendered
  refine ⟨accepted, stem, rendered, short, safe ?_⟩
  intro c there
  rw [List.mem_singleton.mp (show c ∈ ['_'] from there)]
  rfl

end Settings

end Apidoc
