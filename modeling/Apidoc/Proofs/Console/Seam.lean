import Apidoc.Proofs.Console.Escape

/-!
Where texts that are escaped one by one meet. A tag that begins in one of them and is ended by a
bracket of a later one is in none of them alone, so nothing makes it literal.
-/
namespace Apidoc.Console

/-- Whether a text after `run` backslashes ends within a tag, so that a closing bracket after it
would end the tag. -/
def dangles (run : Nat) : List Char → Bool
  | [] => false
  | c :: rest =>
    if c = '\\' then dangles (run + 1) rest
    else if c = '[' && isBody rest then run % 2 == 0
    else dangles 0 rest

theorem dangles_append {front : List Char} (free : noBracket front = true) (run : Nat)
    (rest : List Char) : dangles run (front ++ ']' :: rest) = dangles 0 rest := by
  induction front generalizing run with
  | nil => rfl
  | cons c more ih =>
    obtain ⟨⟨notOpening, -⟩, free⟩ := noBracket_cons.mp free
    rw [List.cons_append, dangles]
    split
    · exact ih free (run + 1)
    · simpa [notOpening] using ih free 0

theorem dangles_tag {body : List Char} (tag : isBody body = true) (run : Nat) (rest : List Char) :
    dangles run ('[' :: (body ++ ']' :: rest)) = dangles 0 rest := by
  have ended : isBody (body ++ ']' :: rest) = false := by
    cases body with
    | nil => cases tag
    | cons c more => simp [isBody, noBracket]
  rw [dangles, if_neg (by decide), ended, Bool.and_false, if_neg Bool.false_ne_true,
    dangles_append (noBracket_of_isBody tag)]

theorem tagsAfter_append {front : List Char} (free : noBracket front = true) (run : Nat)
    (rest : List Char) : tagsAfter run (front ++ ']' :: rest) = tagsAfter 0 rest := by
  induction front generalizing run with
  | nil =>
    have notOpening : ']' ≠ '[' := by decide
    exact tagsAfter_text (by decide) (fun opening => absurd opening notOpening) run
  | cons c more ih =>
    obtain ⟨⟨notOpening, -⟩, free⟩ := noBracket_cons.mp free
    rw [List.cons_append]
    by_cases backslash : c = '\\'
    · subst backslash
      exact (tagsAfter_backslashes run 1 _).trans (ih free (run + 1))
    · rw [tagsAfter_text backslash fun opening => absurd opening notOpening]
      exact ih free 0

/-- A text that neither goes on with a tag nor is changed by the backslashes before it. -/
structure Parted (after : List Char) : Prop where
  noTag : opensTag after = false
  reset : ∀ run, tagsAfter run after = tagsAfter 0 after

theorem parted_nil : Parted [] where
  noTag := rfl
  reset run := (tagsAfter_nil run).trans (tagsAfter_nil 0).symm

def separates : List Char → Bool
  | [] => false
  | c :: rest => !isTagStart c && isPlain (c :: rest)

theorem isPlain_of_separates {front : List Char} (apart : separates front = true) :
    isPlain front = true := by
  cases front with
  | nil => rfl
  | cons c rest =>
    rw [separates, Bool.and_eq_true] at apart
    exact apart.2

theorem parted_append {front : List Char} (apart : separates front = true) (rest : List Char) :
    Parted (front ++ rest) := by
  have plain := ne_of_isPlain (isPlain_of_separates apart)
  cases front with
  | nil => cases apart
  | cons c more =>
    rw [separates, Bool.and_eq_true, Bool.not_eq_true'] at apart
    refine ⟨?_, fun run => ?_⟩
    · rw [List.cons_append, opensTag_cons, apart.1, Bool.false_and]
    · have some := List.cons_ne_nil c more
      rw [tagsAfter_plain plain (.inr some), tagsAfter_plain plain (.inl rfl)]

theorem Parted.backslashes {after : List Char} (parted : Parted after) (n : Nat) :
    Parted (List.replicate n '\\' ++ after) where
  noTag := by
    cases n with
    | zero => exact parted.noTag
    | succ n => rfl
  reset run := by rw [tagsAfter_backslashes, tagsAfter_backslashes, parted.reset, parted.reset (0 + n)]

theorem Escapes.noBracket_eq {run : Nat} {s out : List Char} (escapes : Escapes run s out) :
    noBracket out = noBracket s := by
  induction escapes with
  | ended run => exact noBracket_replicate run
  | backslash _ ih => rw [ih]; rfl
  | tag => simp [noBracket]
  | text run _ _ _ ih =>
    rw [noBracket_append, noBracket_replicate, Bool.true_and]
    exact congrArg (_ && ·) ih

/-- A tag that was not there before is found exactly if the text ends within one and what comes
after it ends that. -/
theorem Escapes.tagsAfter_eq_nil_iff {run : Nat} {s out after : List Char}
    (escapes : Escapes run s out) (parted : Parted after) :
    tagsAfter 0 (out ++ after) = [] ↔
      ¬(dangles run s = true ∧ closes after = true) ∧ tagsAfter 0 after = [] := by
  induction escapes with
  | ended run => simp [tagsAfter_backslashes, parted.reset, dangles]
  | backslash _ ih => rw [ih, dangles, if_pos rfl]
  | @tag body rest out run tag _ ih =>
    have odd : ¬(0 + (2 * run + 1)) % 2 = 0 := by omega
    rw [List.append_assoc, tagsAfter_backslashes, List.cons_append, List.append_assoc,
      List.cons_append, tagsAfter_tag tag, if_neg odd, List.nil_append, ih, dangles_tag tag]
  | @text c rest out run other text more ih =>
    rw [List.append_assoc, tagsAfter_backslashes, Nat.zero_add, List.cons_append, dangles,
      if_neg other]
    by_cases opens : c = '[' ∧ opensTag (out ++ after) = true
    · -- The bracket that ends the tag comes after the text, which has none after this one.
      obtain ⟨rfl, opens⟩ := opens
      have seam := (more.opensTag_eq (text rfl) parted.noTag).symm.trans opens
      rw [Bool.and_eq_true] at seam
      obtain ⟨body, closing⟩ := seam
      rw [if_pos (by simp [body]), closing]
      by_cases even : run % 2 = 0
      · obtain ⟨found, rest, same, isBody⟩ := exists_body_of_opensTag opens
        rw [same, tagsAfter_tag isBody, if_pos even]
        simp [even]
      · obtain ⟨front, rest, rfl, free⟩ := exists_of_closes closing
        have all : noBracket (out ++ front) = true := by
          rw [noBracket_append, more.noBracket_eq, noBracket_of_isBody body, free]
          rfl
        rw [tagsAfter_bracket opens, if_neg even, ← List.append_assoc, tagsInLiteral_append all,
          tagsAfter_append free]
        simp [even]
    · have lookahead : c = '[' → opensTag (out ++ after) = false := fun opening =>
        Bool.eq_false_iff.mpr fun still => opens ⟨opening, still⟩
      rw [tagsAfter_text other lookahead, ih]
      split
      · next tag =>
        rw [Bool.and_eq_true, decide_eq_true_eq] at tag
        obtain ⟨rfl, body⟩ := tag
        have unclosed : closes after = false := by
          have seam := more.opensTag_eq (text rfl) parted.noTag
          rw [lookahead rfl, body, Bool.true_and] at seam
          exact seam.symm
        simp [unclosed]
      · rfl

theorem tagsAfter_escape_eq_nil_iff {after : List Char} (parted : Parted after) (s : String) :
    tagsAfter 0 ((escape s).toList ++ after) = [] ↔
      ¬(dangles 0 s.toList = true ∧ closes after = true) ∧ tagsAfter 0 after = [] := by
  obtain ⟨out, extra, escapes, -, same⟩ := toList_escape s
  rw [same, List.append_assoc, escapes.tagsAfter_eq_nil_iff (parted.backslashes extra),
    closes_append (noBracket_replicate extra), tagsAfter_backslashes, parted.reset]

inductive Joined : List (List Char) → List Char → Prop
  | nil : Joined [] []
  | plain (front : List Char) {markup : List Char} {texts : List (List Char)} :
      separates front = true → Joined texts markup → Joined texts (front ++ markup)
  | text (front : List Char) (s : String) {markup : List Char} {texts : List (List Char)} :
      separates front = true → Joined texts markup →
      Joined (s.toList :: texts) (front ++ ((escape s).toList ++ markup))

/-- Whether one of some texts ends within a tag, and the first bracket after it is a closing one. -/
def Strays : List (List Char) → Prop
  | [] => False
  | s :: rest => (dangles 0 s = true ∧ closes rest.flatten = true) ∨ Strays rest

namespace Joined

variable {texts : List (List Char)} {markup : List Char}

theorem parted (joined : Joined texts markup) : Parted markup := by
  cases joined with
  | nil => exact parted_nil
  | plain _ apart _ => exact parted_append apart _
  | text _ _ apart _ => exact parted_append apart _

theorem closes_eq (joined : Joined texts markup) : closes markup = closes texts.flatten := by
  induction joined with
  | nil => rfl
  | plain _ apart _ ih => rw [closes_append (noBracket_of_isPlain (isPlain_of_separates apart)), ih]
  | text _ s apart _ ih =>
    rw [closes_append (noBracket_of_isPlain (isPlain_of_separates apart)), closes_escape,
      List.flatten_cons, closes_append_eq, closes_append_eq s.toList, ih]

theorem tagsAfter_eq_nil_iff (joined : Joined texts markup) :
    tagsAfter 0 markup = [] ↔ ¬Strays texts := by
  induction joined with
  | nil => simp [tagsAfter_nil, Strays]
  | plain _ apart _ ih =>
    rw [tagsAfter_plain (ne_of_isPlain (isPlain_of_separates apart)) (.inl rfl), ih]
  | text _ s apart more ih =>
    rw [tagsAfter_plain (ne_of_isPlain (isPlain_of_separates apart)) (.inl rfl),
      tagsAfter_escape_eq_nil_iff more.parted, more.closes_eq, ih, Strays, not_or]

end Joined

end Apidoc.Console
