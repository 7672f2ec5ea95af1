import Apidoc.Proofs.Text.Lower
import Apidoc.Proofs.Text.Pieces

/-!
Texts whose words are parted by single copies of one character, with none of it at either end. Joined
words have this form, and it is not lost where the text is cut and something is put behind the cut.
-/
namespace Apidoc.Text

variable {r : Char} {s t : List Char}

/-- Words parted by single copies of `r`, with none before the first or after the last. -/
inductive Tidy (r : Char) : List Char → Prop
  | single {c : Char} : c ≠ r → Tidy r [c]
  | cons {c : Char} {rest : List Char} : c ≠ r → Tidy r rest → Tidy r (c :: rest)
  | gap {c : Char} {rest : List Char} : c ≠ r → Tidy r rest → Tidy r (c :: r :: rest)

namespace Tidy

theorem append (absent : r ∉ t) (tidy : Tidy r s) : Tidy r (t ++ s) := by
  induction t with
  | nil => exact tidy
  | cons c rest ih =>
    simp only [List.mem_cons, not_or] at absent
    exact .cons (Ne.symm absent.1) (ih absent.2)

theorem of_not_mem (nonempty : s ≠ []) (absent : r ∉ s) : Tidy r s := by
  rcases List.eq_nil_or_concat s with rfl | ⟨front, c, rfl⟩
  · exact absurd rfl nonempty
  · rw [List.concat_eq_append] at absent ⊢
    simp only [List.mem_append, List.mem_singleton, not_or] at absent
    exact append absent.1 (.single (Ne.symm absent.2))

theorem append_gap (nonempty : t ≠ []) (absent : r ∉ t) (tidy : Tidy r s) : Tidy r (t ++ r :: s) := by
  rcases List.eq_nil_or_concat t with rfl | ⟨front, c, rfl⟩
  · exact absurd rfl nonempty
  · rw [List.concat_eq_append] at absent ⊢
    simp only [List.mem_append, List.mem_singleton, not_or] at absent
    rw [List.append_assoc, List.singleton_append]
    exact append absent.1 (.gap (Ne.symm absent.2) tidy)

theorem intercalate {ts : List (List Char)} (some : ts ≠ [])
    (words : ∀ t ∈ ts, t ≠ [] ∧ r ∉ t) : Tidy r ([r].intercalate ts) := by
  induction ts with
  | nil => exact absurd rfl some
  | cons t others ih =>
    obtain ⟨nonempty, absent⟩ := words t List.mem_cons_self
    cases others with
    | nil =>
      rw [List.intercalate_singleton]
      exact of_not_mem nonempty absent
    | cons next others =>
      rw [List.intercalate_cons_cons, List.append_assoc, List.singleton_append]
      apply append_gap nonempty absent
      exact ih (List.cons_ne_nil next others) fun t there => words t (List.mem_cons_of_mem _ there)

/-- Wherever a tidy text is cut, what follows the cut keeps it tidy, even right behind a copy of
`r`. -/
theorem take_append (tidy : Tidy r s) (nonempty : t ≠ []) (absent : r ∉ t) (n : Nat) :
    Tidy r (s.take n ++ t) := by
  induction tidy generalizing n with
  | single other =>
    cases n with
    | zero => exact of_not_mem nonempty absent
    | succ n => exact .cons other (by simpa using of_not_mem nonempty absent)
  | cons other _ ih =>
    cases n with
    | zero => exact of_not_mem nonempty absent
    | succ n => exact .cons other (ih n)
  | gap other _ ih =>
    match n with
    | 0 => exact of_not_mem nonempty absent
    | 1 => exact .cons other (of_not_mem nonempty absent)
    | n + 2 => exact .gap other (ih n)

theorem head?_ne (tidy : Tidy r s) : s.head? ≠ some r := by
  cases tidy with
  | single other => simpa using other
  | cons other _ => simpa using other
  | gap other _ => simpa using other

theorem getLast?_ne (tidy : Tidy r s) : s.getLast? ≠ some r := by
  induction tidy with
  | single other => simpa using other
  | @cons c rest _ tidy ih =>
    cases tidy <;> simpa using ih
  | @gap c rest _ tidy ih =>
    cases tidy <;> simpa using ih

theorem not_twice (tidy : Tidy r s) : ¬[r, r] <:+: s := by
  induction tidy with
  | single other =>
    intro twice
    simpa using twice.length_le
  | cons other _ ih =>
    rw [List.infix_cons_iff]
    rintro (first | later)
    · exact other (List.cons_prefix_cons.mp first).1.symm
    · exact ih later
  | gap other tidy ih =>
    rw [List.infix_cons_iff, List.infix_cons_iff]
    rintro (first | second | later)
    · exact other (List.cons_prefix_cons.mp first).1.symm
    · obtain ⟨more, rfl⟩ := (List.cons_prefix_cons.mp second).2
      exact tidy.head?_ne rfl
    · exact ih later

theorem flatten_forms (tidy : Tidy r s) {forms : List (List Char)}
    (each : List.Forall₂ IsForm s forms)
    (own : ∀ c ∈ s, ∀ form, IsForm c form → r ∈ form → c = r) :
    Tidy r forms.flatten := by
  induction tidy generalizing forms with
  | single other =>
    cases each with
    | cons isForm none =>
      cases none
      rw [List.flatten_singleton]
      exact of_not_mem isForm.ne_nil fun there => other (own _ (by simp) _ isForm there)
  | cons other _ ih =>
    cases each with
    | cons isForm each =>
      rw [List.flatten_cons]
      apply append fun there => other (own _ (by simp) _ isForm there)
      exact ih each fun c there => own c (by simp [there])
  | gap other _ ih =>
    cases each with
    | cons isForm each =>
      cases each with
      | @cons _ form _ forms isFormOfGap each =>
        have absent := fun there => other (own _ (by simp) _ isForm there)
        have remaining := ih each fun c there => own c (by simp [there])
        rw [List.flatten_cons, List.flatten_cons]
        -- The replacement may itself have another lower-case form: the words are then one.
        by_cases kept : r ∈ form
        · rw [isFormOfGap.eq_singleton kept]
          exact append_gap isForm.ne_nil absent remaining
        · exact append absent (append kept remaining)

theorem nil_not_mem_splitAtEach (tidy : Tidy r s) : [] ∉ splitAtEach (· == r) s := by
  induction tidy with
  | single other => simp [splitAtEach, other]
  | @cons c rest other _ ih =>
    rw [splitAtEach, if_neg (by simpa using other)]
    split
    · simp
    · next piece pieces split =>
      rw [split] at ih
      simp only [List.mem_cons, not_or] at ih ⊢
      exact ⟨(List.cons_ne_nil _ _).symm, ih.2⟩
  | @gap c rest other _ ih =>
    simp only [splitAtEach, if_neg (show ¬(c == r) = true by simpa using other), beq_self_eq_true,
      if_true, List.mem_cons, not_or]
    exact ⟨(List.cons_ne_nil _ _).symm, ih⟩

end Tidy

end Apidoc.Text
