import Mathlib.Data.List.Forall2
import Apidoc.Text.Lower

/-!
What lower-case forms are made of. Each character of a text gives way to a form of its own, the
capital sigma to one of two; a form is never empty, and its characters are their own lower-case
forms. So a text in lower case stays as it is.

That holds by the table of runs, and the table is compared with itself as a whole: the code points
that runs cover and those that they lead to are held as the bits of two numbers without a common one.
-/
namespace Apidoc.Text

section Mask

def mask : List Nat → Nat
  | [] => 0
  | n :: rest => (1 <<< n) ||| mask rest

/-- The set of the code points of several lists. They are kept apart so that the number can be worked
out without going as deep as there are code points. -/
def maskAll : List (List Nat) → Nat
  | [] => 0
  | codes :: rest => mask codes ||| maskAll rest

theorem testBit_mask {codes : List Nat} {n : Nat} (there : n ∈ codes) :
    (mask codes).testBit n = true := by
  induction codes with
  | nil => cases there
  | cons m rest ih =>
    rw [mask, Nat.testBit_or, Bool.or_eq_true]
    rcases List.mem_cons.mp there with rfl | there
    · exact .inl (by simp [Nat.testBit_shiftLeft])
    · exact .inr (ih there)

theorem testBit_maskAll {lists : List (List Nat)} {n : Nat} (there : n ∈ lists.flatten) :
    (maskAll lists).testBit n = true := by
  induction lists with
  | nil => cases there
  | cons codes rest ih =>
    rw [maskAll, Nat.testBit_or, Bool.or_eq_true]
    rw [List.flatten_cons, List.mem_append] at there
    exact there.imp testBit_mask ih

/-- Sets whose numbers have no bit in common have no code point in common. -/
theorem not_mem_of_maskAll {lists others : List (List Nat)}
    (apart : maskAll lists &&& maskAll others = 0) {n : Nat} (there : n ∈ lists.flatten) :
    n ∉ others.flatten := by
  intro too
  have common : (maskAll lists &&& maskAll others).testBit n = true := by
    rw [Nat.testBit_and, testBit_maskAll there, testBit_maskAll too]
    rfl
  rw [apart, Nat.zero_testBit] at common
  cases common

end Mask

def CaseRun.codes (run : CaseRun) : List Nat :=
  (List.range ((run.last - run.first) / run.step + 1)).map (run.first + run.step * ·)

theorem CaseRun.mem_codes {run : CaseRun} {n : Nat} (covered : run.covers n = true) :
    n ∈ run.codes := by
  simp only [covers, Bool.and_eq_true, decide_eq_true_eq, beq_iff_eq] at covered
  obtain ⟨⟨above, below⟩, inStep⟩ := covered
  refine List.mem_map.mpr ⟨(n - run.first) / run.step, ?_, ?_⟩
  · have : (n - run.first) / run.step ≤ (run.last - run.first) / run.step :=
      Nat.div_le_div_right (by omega)
    rw [List.mem_range]
    omega
  · have whole := Nat.div_add_mod (n - run.first) run.step
    rw [inStep] at whole
    omega

def coveredCodes : List (List Nat) :=
  caseRuns.map CaseRun.codes

/-- The code points that other characters become in lower case, run by run. The two small sigmas are
left out, and zero stands for what is no character. -/
def loweredCodes : List (List Nat) :=
  [0, 'i'.toNat, '\u0307'.toNat] ::
    caseRuns.map fun run => run.codes.map fun n => (Int.ofNat n + run.shift).toNat

theorem loweredCodes_apart :
    maskAll loweredCodes &&& maskAll (['\u0130'.toNat, '\u03A3'.toNat] :: coveredCodes) = 0 := by
  decide +kernel

variable {c d : Char} {s form : List Char}

theorem lowerChar_eq_self (dotless : c ≠ '\u0130') (uncovered : c.toNat ∉ coveredCodes.flatten) :
    lowerChar c = [c] := by
  have none : caseRuns.find? (·.covers c.toNat) = none := by
    rw [List.find?_eq_none]
    intro run listed covered
    exact uncovered (List.mem_flatten_of_mem (List.mem_map_of_mem listed) (CaseRun.mem_codes covered))
  rw [lowerChar, if_neg (by simpa using dotless), none]

theorem lowerChar_cases (c : Char) :
    lowerChar c = [c] ∨ (∃ d, lowerChar c = [d] ∧ d.toNat ∈ loweredCodes.flatten) ∨
      (c = '\u0130' ∧ lowerChar c = ['i', '\u0307']) := by
  by_cases dotted : c = '\u0130'
  · subst dotted
    exact .inr (.inr ⟨rfl, rfl⟩)
  · rw [lowerChar, if_neg (by simpa using dotted)]
    cases found : caseRuns.find? (·.covers c.toNat) with
    | none => exact .inl rfl
    | some run =>
      refine .inr (.inl ⟨_, rfl, ?_⟩)
      have covered : run.covers c.toNat = true := by simpa using List.find?_some found
      have target : (c.toNat + run.shift : Int).toNat ∈ loweredCodes.flatten := by
        have listed := List.mem_of_find?_eq_some found
        exact List.mem_flatten_of_mem (List.mem_cons_of_mem _ (List.mem_map_of_mem listed))
          (List.mem_map_of_mem (CaseRun.mem_codes covered))
      by_cases valid : (c.toNat + run.shift : Int).toNat.isValidChar
      · rw [Char.ofNat, dif_pos valid]
        exact target
      · rw [Char.ofNat, dif_neg valid]
        exact List.mem_flatten_of_mem List.mem_cons_self (by decide)

/-- A character that comes out of another one is among the lowered. -/
theorem mem_loweredCodes (there : d ∈ lowerChar c) (other : d ≠ c) :
    d.toNat ∈ loweredCodes.flatten := by
  rcases lowerChar_cases c with same | ⟨e, lowered, target⟩ | ⟨-, dotted⟩
  · rw [same, List.mem_singleton] at there
    exact absurd there other
  · rw [lowered, List.mem_singleton] at there
    rwa [there]
  · rw [dotted, List.mem_cons, List.mem_singleton] at there
    rcases there with rfl | rfl
    · exact List.mem_flatten_of_mem List.mem_cons_self (by decide)
    · exact List.mem_flatten_of_mem List.mem_cons_self (by decide)

/-- Characters that lower case leaves as they are, wherever they stand. -/
structure IsLower (c : Char) : Prop where
  notSigma : c ≠ '\u03A3'
  kept : lowerChar c = [c]

theorem isLower_of_mem_loweredCodes (lowered : c.toNat ∈ loweredCodes.flatten) : IsLower c := by
  have apart := not_mem_of_maskAll loweredCodes_apart lowered
  simp only [List.flatten_cons, List.mem_append, List.mem_cons, List.not_mem_nil, or_false, not_or]
    at apart
  obtain ⟨⟨notDotted, notSigma⟩, uncovered⟩ := apart
  refine ⟨?_, lowerChar_eq_self ?_ uncovered⟩
  · rintro rfl
    exact notSigma rfl
  · rintro rfl
    exact notDotted rfl

/-- What may stand for a character in lower case: the capital sigma has a form of its own for the
end of a word. -/
inductive IsForm : Char → List Char → Prop
  | sigma : IsForm '\u03A3' ['\u03C3']
  | finalSigma : IsForm '\u03A3' ['\u03C2']
  | alone {c : Char} : c ≠ '\u03A3' → IsForm c (lowerChar c)

theorem IsForm.ne_nil (isForm : IsForm c form) : form ≠ [] := by
  cases isForm with
  | sigma => exact List.cons_ne_nil _ _
  | finalSigma => exact List.cons_ne_nil _ _
  | alone _ =>
    rcases lowerChar_cases c with same | ⟨d, lowered, -⟩ | ⟨-, dotted⟩
    · simp [same]
    · simp [lowered]
    · simp [dotted]

/-- A form that has the character itself in it is that character. -/
theorem IsForm.eq_singleton (isForm : IsForm c form) (there : c ∈ form) : form = [c] := by
  cases isForm with
  | sigma => simp at there
  | finalSigma => simp at there
  | alone _ =>
    rcases lowerChar_cases c with same | ⟨d, lowered, -⟩ | ⟨rfl, dotted⟩
    · exact same
    · rw [lowered, List.mem_singleton] at there
      rw [lowered, there]
    · rw [dotted] at there
      simp at there

theorem IsForm.isLower (isForm : IsForm c form) (there : d ∈ form) : IsLower d := by
  cases isForm with
  | sigma =>
    rw [List.mem_singleton] at there
    subst there
    exact ⟨by decide, by decide +kernel⟩
  | finalSigma =>
    rw [List.mem_singleton] at there
    subst there
    exact ⟨by decide, by decide +kernel⟩
  | alone notSigma =>
    by_cases same : d = c
    · subst same
      exact ⟨notSigma, IsForm.eq_singleton (.alone notSigma) there⟩
    · exact isLower_of_mem_loweredCodes (mem_loweredCodes there same)

theorem lowerFrom_forms (before s : List Char) :
    ∃ forms, lowerFrom before s = forms.flatten ∧ List.Forall₂ IsForm s forms := by
  induction s generalizing before with
  | nil => exact ⟨[], rfl, .nil⟩
  | cons c rest ih =>
    obtain ⟨forms, same, each⟩ := ih (c :: before)
    rw [lowerFrom, same]
    by_cases sigma : c = '\u03A3'
    · subst sigma
      rw [if_pos (by rfl)]
      split
      · exact ⟨_ :: forms, rfl, .cons .finalSigma each⟩
      · exact ⟨_ :: forms, rfl, .cons .sigma each⟩
    · rw [if_neg (by simpa using sigma)]
      exact ⟨_ :: forms, rfl, .cons (.alone sigma) each⟩

/-- A text in lower case is a form of each of its characters, in order. -/
theorem lower_forms (s : List Char) :
    ∃ forms, lower s = forms.flatten ∧ List.Forall₂ IsForm s forms :=
  lowerFrom_forms [] s

theorem exists_form_of_mem_lower (there : d ∈ lower s) :
    ∃ c ∈ s, ∃ form, IsForm c form ∧ d ∈ form := by
  obtain ⟨forms, same, each⟩ := lower_forms s
  rw [same] at there
  clear same
  induction each with
  | nil => cases there
  | @cons c form rest forms isForm _ ih =>
    rw [List.flatten_cons, List.mem_append] at there
    rcases there with first | later
    · exact ⟨c, List.mem_cons_self, form, isForm, first⟩
    · obtain ⟨e, among, found⟩ := ih later
      exact ⟨e, List.mem_cons_of_mem c among, found⟩

theorem isLower_of_mem_lower (there : d ∈ lower s) : IsLower d := by
  obtain ⟨c, -, form, isForm, inside⟩ := exists_form_of_mem_lower there
  exact isForm.isLower inside

theorem lower_eq_self (low : ∀ c ∈ s, IsLower c) : lower s = s := by
  have each : ∀ before, lowerFrom before s = s := by
    induction s with
    | nil => exact fun _ => rfl
    | cons c rest ih =>
      intro before
      obtain ⟨notSigma, kept⟩ := low c List.mem_cons_self
      rw [lowerFrom, if_neg (by simpa using notSigma), kept,
        ih (fun c there => low c (List.mem_cons_of_mem _ there))]
      rfl
  exact each []

end Apidoc.Text
