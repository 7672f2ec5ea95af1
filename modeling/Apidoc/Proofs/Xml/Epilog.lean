import Mathlib.Tactic.SplitIfs
import Apidoc.Proofs.Xml.Token
import Apidoc.Xml.Document

/-!
What stands behind the root element cannot end with a letter and a closing angle bracket: comments
and instructions end with a dash or a question mark before theirs.
-/
namespace Apidoc.Xml

namespace Aside

def isEnding : Aside → Bool
  | .comment dashes => 2 ≤ dashes
  | .targetEnd _ => true
  | .instruction _ afterMark => afterMark
  | _ => false

variable {aside next : Aside} {c : Char}

theorem step_done {declaration : Bool} (done : aside.step c = some (.done declaration)) :
    c = '>' ∧ aside.isEnding = true := by
  fun_cases step aside c <;> grind [step, isEnding]

theorem step_more_ending (more : aside.step c = some (.more next)) (ending : next.isEnding = true) :
    c = '-' ∨ c = '?' := by
  fun_cases step aside c <;> grind [step, isEnding]

end Aside

namespace Prolog

def Token.isFiller : Token → Bool
  | .blank => true
  | .aside _ => true
  | _ => false

variable {token : Token} {chars after text : List Char}

theorem isFiller_of_isMark (mark : token.isMark = true) : token.isFiller = false := by
  cases token <;> first | rfl | cases mark

theorem scanLess_filler {rest : List Char} (scanned : scanLess rest = .ok (token, after))
    (filler : token.isFiller = true) :
    (∃ more, rest = '!' :: '-' :: more ∧ scanAside .commentStart more = .ok (token, after)) ∨
      ∃ more, rest = '?' :: more ∧ scanAside (.target []) more = .ok (token, after) := by
  unfold scanLess stopAt at scanned
  split at scanned
  · cases scanned
  · split at scanned
    · cases scanned
    · exact Or.inl ⟨_, rfl, scanned⟩
    · cases scanned
      cases filler
    · split_ifs at scanned
      obtain ⟨_, rfl⟩ := scanDeclaration_token scanned
      cases filler
  · exact Or.inr ⟨_, rfl, scanned⟩
  · split_ifs at scanned
    cases scanned
    cases filler

theorem scanToken_filler {c : Char} {rest : List Char}
    (scanned : scanToken c rest = .ok (token, after)) (filler : token.isFiller = true) :
    (isSpace c = true ∧ after = rest.dropWhile isSpace) ∨
      c = '<' ∧ scanLess rest = .ok (token, after) := by
  rcases scanToken_cases scanned with
    ⟨space, -, dropped⟩ | less | ⟨-, simple⟩ | loose | mark
  · exact Or.inl ⟨space, dropped⟩
  · exact Or.inr less
  · rcases scanName_token simple with ⟨_, _, rfl⟩ | ⟨_, rfl⟩ <;> cases filler
  · rcases scanName_token loose with ⟨_, _, rfl⟩ | ⟨_, rfl⟩ <;> cases filler
  · rw [isFiller_of_isMark mark] at filler
    cases filler

theorem scanAside_unended {aside : Aside} {t : List Char}
    (scanned : scanAside aside (t ++ ['r', '>']) = .ok (token, after)) : 2 ≤ after.length := by
  induction t generalizing aside with
  | nil =>
    rw [List.nil_append, scanAside] at scanned
    split at scanned
    · cases scanned
    · next next more =>
      rw [scanAside] at scanned
      split at scanned
      · cases scanned
      · cases scanned
      · next declaration done =>
        have mark := Aside.step_more_ending more (Aside.step_done done).2
        exact absurd mark (by decide)
    · next declaration done =>
      exact absurd (Aside.step_done done).1 (by decide)
  | cons c t ih =>
    rw [List.cons_append, scanAside] at scanned
    split at scanned
    · cases scanned
    · exact ih scanned
    · cases scanned
      simp

theorem scanToken_unended {c : Char} {rest t : List Char}
    (scanned : scanToken c rest = .ok (token, after)) (filler : token.isFiller = true)
    (ends : c :: rest = t ++ ['r', '>']) :
    2 ≤ after.length ∧ ∃ more, rest = more ++ ['r', '>'] := by
  rcases scanToken_filler scanned filler with ⟨space, rfl⟩ | ⟨rfl, less⟩
  · cases t with
    | nil =>
      cases ends
      cases space
    | cons d t =>
      rw [List.cons_append, List.cons_eq_cons] at ends
      obtain ⟨rfl, rfl⟩ := ends
      refine ⟨?_, t, rfl⟩
      have letter : List.dropWhile isSpace ['r', '>'] = ['r', '>'] := by decide
      rw [List.dropWhile_append, letter]
      split <;> simp
  · cases t with
    | nil => cases ends
    | cons d t =>
      cases ends
      refine ⟨?_, t, rfl⟩
      rcases scanLess_filler less filler with ⟨more, split, aside⟩ | ⟨more, split, aside⟩
      · match t, split with
        | _ :: _ :: t, split =>
          cases split
          exact scanAside_unended aside
      · match t, split with
        | _ :: t, split =>
          cases split
          exact scanAside_unended aside

end Prolog

theorem checkEpilog_unended (t : List Char) : checkEpilog (t ++ ['r', '>']) ≠ .ok () := by
  induction h : t.length using Nat.strongRecOn generalizing t with
  | ind n ih =>
    intro checked
    obtain ⟨c, rest, ends⟩ : ∃ c rest, t ++ ['r', '>'] = c :: rest := by
      cases t with
      | nil => exact ⟨_, _, rfl⟩
      | cons c t => exact ⟨_, _, rfl⟩
    have onward : ∀ token after, Prolog.scanToken c rest = .ok (token, after) →
        token.isFiller = true → checkEpilog (rest.drop (rest.length - after.length)) ≠ .ok () := by
      intro token after scanned filler
      obtain ⟨long, more, rfl⟩ := Prolog.scanToken_unended scanned filler ends.symm
      have shorter : more.length < t.length := by
        have lengths := congrArg List.length ends
        simp only [List.length_append, List.length_cons] at lengths
        omega
      rw [List.drop_append_of_le_length (by simp; omega)]
      exact ih _ (by rw [List.length_drop]; omega) _ rfl
    rw [ends, checkEpilog] at checked
    split at checked
    · cases checked
    · next after scanned => exact onward _ _ scanned rfl checked
    · next after scanned => exact onward _ _ scanned rfl checked
    · cases checked

end Apidoc.Xml
