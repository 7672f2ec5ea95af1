import Apidoc.Proofs.Console.Tags

/-!
Escaped text between other text. The reader of markup and the writer of escapes both look ahead to
the next bracket to tell whether a tag begins, so escaping a text alone is enough unless the bracket
that ends a tag comes after it. `Escapes` says what the writer does piece by piece, and the rest is
by induction on it.
-/
namespace Apidoc.Console

/-- How a text that stands after `run` backslashes, not yet written, is escaped. -/
inductive Escapes : Nat → List Char → List Char → Prop
  | ended (run : Nat) : Escapes run [] (List.replicate run '\\')
  | backslash {run : Nat} {rest out : List Char} :
      Escapes (run + 1) rest out → Escapes run ('\\' :: rest) out
  | tag {body rest out : List Char} (run : Nat) :
      isBody body = true → Escapes 0 rest out →
      Escapes run ('[' :: (body ++ ']' :: rest))
        (List.replicate (2 * run + 1) '\\' ++ '[' :: (body ++ ']' :: out))
  | text {c : Char} {rest out : List Char} (run : Nat) :
      c ≠ '\\' → (c = '[' → opensTag rest = false) → Escapes 0 rest out →
      Escapes run (c :: rest) (List.replicate run '\\' ++ c :: out)

theorem escapeFrom_inTag {body : List Char} (free : noBracket body = true) (rest : List Char) :
    escapeFrom true 0 (body ++ ']' :: rest) = body ++ ']' :: escapeFrom false 0 rest := by
  induction body with
  | nil => rfl
  | cons c more ih =>
    obtain ⟨⟨-, notClosing⟩, free⟩ := noBracket_cons.mp free
    rw [List.cons_append, escapeFrom, if_pos rfl, decide_eq_true notClosing, ih free]
    rfl

theorem escapes_escapeFrom (run : Nat) (s : List Char) : Escapes run s (escapeFrom false run s) := by
  -- By induction on the length: a tag is passed over as a whole.
  induction size : s.length using Nat.strongRecOn generalizing run s with
  | ind n ih =>
    cases s with
    | nil => exact .ended run
    | cons c rest =>
      have shorter : rest.length < n := by simp [← size]
      rw [escapeFrom, if_neg Bool.false_ne_true]
      by_cases backslash : c = '\\'
      · subst backslash
        rw [if_pos rfl]
        exact .backslash (ih _ shorter _ _ rfl)
      · rw [if_neg backslash]
        split
        · next tag =>
          rw [Bool.and_eq_true, decide_eq_true_eq] at tag
          obtain ⟨rfl, opens⟩ := tag
          obtain ⟨body, more, rfl, isBody⟩ := exists_body_of_opensTag opens
          rw [escapeFrom_inTag (noBracket_of_isBody isBody)]
          have still : more.length < n := by
            rw [List.length_append, List.length_cons] at shorter
            omega
          exact .tag run isBody (ih _ still _ _ rfl)
        · next text =>
          have lookahead : c = '[' → opensTag rest = false := by
            rintro rfl
            simpa using text
          exact .text run backslash lookahead (ih _ shorter _ _ rfl)

/-- The backslashes at the end of a text that stands after `run` of them. -/
def backslashes (run : Nat) : List Char → Nat
  | [] => run
  | c :: rest => if c = '\\' then backslashes (run + 1) rest else backslashes 0 rest

theorem backslashes_append (run : Nat) (front : List Char) {c : Char} (other : c ≠ '\\')
    (rest : List Char) : backslashes run (front ++ c :: rest) = backslashes 0 rest := by
  induction front generalizing run with
  | nil => exact if_neg other
  | cons d more ih =>
    rw [List.cons_append, backslashes]
    split
    · exact ih (run + 1)
    · exact ih 0

theorem backslashes_tag (run : Nat) (front body rest : List Char) :
    backslashes run (front ++ '[' :: (body ++ ']' :: rest)) = backslashes 0 rest := by
  rw [backslashes_append run front (by decide), backslashes_append 0 body (by decide)]

theorem backslashes_replicate (run n : Nat) :
    backslashes run (List.replicate n '\\') = run + n := by
  induction n generalizing run with
  | zero => rfl
  | succ n ih =>
    rw [List.replicate_succ, backslashes, if_pos rfl, ih]
    omega

theorem noBracket_replicate (n : Nat) : noBracket (List.replicate n '\\') = true := by
  simp [noBracket]

namespace Escapes

variable {run : Nat} {s out : List Char}

theorem backslashes_eq (escapes : Escapes run s out) : backslashes 0 out = backslashes run s := by
  induction escapes with
  | ended run => rw [backslashes_replicate, Nat.zero_add]; rfl
  | backslash _ ih => rw [ih, backslashes, if_pos rfl]
  | tag run _ _ ih =>
    rw [backslashes_tag, ih]
    exact (backslashes_tag run [] _ _).symm
  | text run other _ _ ih => rw [backslashes_append _ _ other, ih, backslashes, if_neg other]

theorem closes_eq (escapes : Escapes run s out) (after : List Char) :
    closes (out ++ after) = closes (s ++ after) := by
  induction escapes with
  | ended run => exact closes_append (noBracket_replicate run) after
  | backslash _ ih => rw [ih, List.cons_append, closes_cons]; rfl
  | tag run _ _ _ =>
    rw [List.append_assoc, closes_append (noBracket_replicate _), List.cons_append, closes_cons]
    exact (closes_cons '[' _).symm
  | text run _ _ _ ih =>
    rw [List.append_assoc, closes_append (noBracket_replicate _), List.cons_append, closes_cons,
      ih, List.cons_append, closes_cons]

/-- Backslashes that are still to be written come before anything else. -/
theorem opensTag_run (escapes : Escapes (run + 1) s out) (after : List Char) :
    opensTag (out ++ after) = false := by
  generalize held : run + 1 = n at escapes
  induction escapes generalizing run with
  | ended => subst held; rfl
  | backslash _ ih => exact ih rfl
  | tag => subst held; rfl
  | text => subst held; rfl

/-- Where no tag began in a text alone, one begins when the rest of it and all that comes after it
up to the closing bracket is its body. -/
theorem opensTag_eq (escapes : Escapes 0 s out) (text : opensTag s = false) {after : List Char}
    (apart : opensTag after = false) :
    opensTag (out ++ after) = (isBody s && closes after) := by
  cases escapes with
  | ended => exact apart
  | backslash more =>
    exact more.opensTag_run after
  | tag => rfl
  | text _ other lookahead more =>
    rw [List.replicate_zero, List.nil_append, List.cons_append, opensTag_cons, more.closes_eq,
      closes_append_eq]
    rw [opensTag_cons] at text
    rw [isBody]
    split
    · next free => rw [free, Bool.and_true]
    · next bracket => rw [text, Bool.eq_false_iff.mpr bracket]; simp

/-- The reader goes through escaped text without finding a tag. -/
theorem tagsAfter_eq (escapes : Escapes run s out) {after : List Char}
    (apart : closes after = false) :
    tagsAfter 0 (out ++ after) = tagsAfter (backslashes run s) after := by
  have noTag : opensTag after = false := by
    rw [← Bool.not_eq_true] at apart ⊢
    exact fun opens => apart (closes_of_opensTag opens)
  induction escapes with
  | ended run => rw [tagsAfter_backslashes, Nat.zero_add]; rfl
  | backslash _ ih => rw [ih, backslashes, if_pos rfl]
  | @tag body rest out run isBody _ ih =>
    have odd : ¬(0 + (2 * run + 1)) % 2 = 0 := by omega
    rw [List.append_assoc, tagsAfter_backslashes, List.cons_append, List.append_assoc,
      List.cons_append, tagsAfter_tag isBody, if_neg odd, List.nil_append, ih]
    exact congrArg (tagsAfter · after) (backslashes_tag run [] body rest).symm
  | @text c rest out run other text more ih =>
    have lookahead : c = '[' → opensTag (out ++ after) = false := by
      intro opening
      rw [more.opensTag_eq (text opening) noTag, apart, Bool.and_false]
    rw [List.append_assoc, tagsAfter_backslashes, List.cons_append, tagsAfter_text other lookahead,
      ih, backslashes, if_neg other]

end Escapes

section Escape

/-- The backslashes at the end of a text once it is escaped: one alone is written twice. -/
def escapedBackslashes (s : String) : Nat :=
  if backslashes 0 s.toList = 1 then 2 else backslashes 0 s.toList

/-- Whether a text ends in backslashes that make a tag after it text even when it is escaped: an odd
number of them, and not one alone. -/
def Swallows (s : String) : Prop :=
  backslashes 0 s.toList % 2 = 1 ∧ backslashes 0 s.toList ≠ 1

instance (s : String) : Decidable (Swallows s) :=
  inferInstanceAs (Decidable (_ ∧ _))

theorem swallows_iff (s : String) : Swallows s ↔ escapedBackslashes s % 2 ≠ 0 := by
  unfold Swallows escapedBackslashes
  split <;> omega

theorem backslashes_concat (run : Nat) (s : List Char) :
    backslashes run (s ++ ['\\']) = backslashes run s + 1 := by
  induction s generalizing run with
  | nil => rfl
  | cons c rest ih =>
    rw [List.cons_append, backslashes, backslashes]
    split
    · exact ih (run + 1)
    · exact ih 0

theorem endsInBackslash_iff (s : List Char) : endsInBackslash s = true ↔ backslashes 0 s = 1 := by
  obtain rfl | ⟨front, last, rfl⟩ := s.eq_nil_or_concat
  · decide
  by_cases backslash : last = '\\'
  · subst backslash
    rw [List.concat_eq_append, backslashes_concat]
    obtain rfl | ⟨front, last, rfl⟩ := front.eq_nil_or_concat
    · decide
    by_cases second : last = '\\'
    · subst second
      rw [List.concat_eq_append, backslashes_concat]
      simp [endsInBackslash]
    · rw [List.concat_eq_append, backslashes_append 0 front second []]
      simp [endsInBackslash, second, backslashes]
  · rw [List.concat_eq_append, backslashes_append 0 front backslash []]
    simp [endsInBackslash, backslash, backslashes]

theorem toList_escape (s : String) :
    ∃ out extra, Escapes 0 s.toList out ∧
      backslashes 0 s.toList + extra = escapedBackslashes s ∧
      (escape s).toList = out ++ List.replicate extra '\\' := by
  have escapes := escapes_escapeFrom 0 s.toList
  rw [escape, String.toList_ofList]
  by_cases single : backslashes 0 s.toList = 1
  · have ends := (endsInBackslash_iff _).mpr (escapes.backslashes_eq.trans single)
    rw [if_pos ends]
    refine ⟨_, 1, escapes, ?_, rfl⟩
    rw [escapedBackslashes, if_pos single, single]
  · have ends : ¬endsInBackslash (escapeFrom false 0 s.toList) = true := fun ends =>
      single (escapes.backslashes_eq.symm.trans ((endsInBackslash_iff _).mp ends))
    rw [if_neg ends]
    refine ⟨_, 0, escapes, ?_, (List.append_nil _).symm⟩
    rw [escapedBackslashes, if_neg single, Nat.add_zero]

theorem tagsAfter_escape {after : List Char} (apart : closes after = false) (s : String) :
    tagsAfter 0 ((escape s).toList ++ after) = tagsAfter (escapedBackslashes s) after := by
  obtain ⟨out, extra, escapes, total, same⟩ := toList_escape s
  have further : closes (List.replicate extra '\\' ++ after) = false := by
    rw [closes_append (noBracket_replicate extra), apart]
  rw [same, List.append_assoc, escapes.tagsAfter_eq further, tagsAfter_backslashes, total]

/-- Escaped text alone can always be shown. -/
theorem exists_plain_escape (pictographs : Pictographs) (s : String) :
    ∃ shown, plain pictographs (escape s) = .ok shown := by
  have noTags : tags (escape s).toList = [] := by
    rw [tags_eq_tagsAfter, ← List.append_nil (escape s).toList, tagsAfter_escape rfl,
      tagsAfter_nil]
  refine exists_plain pictographs ?_
  rw [noTags]
  exact .done nofun

theorem closes_escape (s : String) (after : List Char) :
    closes ((escape s).toList ++ after) = closes (s.toList ++ after) := by
  obtain ⟨out, extra, escapes, -, same⟩ := toList_escape s
  rw [same, List.append_assoc, escapes.closes_eq, closes_append_eq, closes_append_eq s.toList,
    closes_append (noBracket_replicate _)]

section Plain

variable {s : List Char} (plain : ∀ c ∈ s, c ≠ '[' ∧ c ≠ '\\')

include plain

theorem escapeFrom_plain : escapeFrom false 0 s = s := by
  induction s with
  | nil => rfl
  | cons c rest ih =>
    obtain ⟨notOpening, notBackslash⟩ := plain c List.mem_cons_self
    have later := ih fun d there => plain d (List.mem_cons_of_mem c there)
    simp [escapeFrom, notOpening, notBackslash, later]

theorem backslashes_plain : backslashes 0 s = 0 := by
  induction s with
  | nil => rfl
  | cons c rest ih =>
    rw [backslashes, if_neg (plain c List.mem_cons_self).2]
    exact ih fun d there => plain d (List.mem_cons_of_mem c there)

end Plain

theorem not_swallows_plain {s : String} (plain : ∀ c ∈ s.toList, c ≠ '[' ∧ c ≠ '\\') :
    ¬Swallows s := by
  rw [Swallows, backslashes_plain plain]
  decide

theorem escape_plain {s : String} (plain : ∀ c ∈ s.toList, c ≠ '[' ∧ c ≠ '\\') :
    escape s = s := by
  have ends : ¬endsInBackslash s.toList = true := by
    rw [endsInBackslash_iff, backslashes_plain plain]
    decide
  rw [escape, escapeFrom_plain plain, if_neg ends, String.ofList_toList]

end Escape

end Apidoc.Console
