import Apidoc.Console.Markup

/-!
The tags that the reader of markup finds. Which ones there are depends neither on what was read
before, the backslashes at its end apart, nor on where the reader is; and whether markup can be
shown depends on its tags alone.
-/
namespace Apidoc.Console

section Lookahead

def closes (s : List Char) : Bool :=
  (s.dropWhile fun d => d ≠ '[' && d ≠ ']').head? == some ']'

theorem closes_cons (c : Char) (s : List Char) :
    closes (c :: s) = if c = ']' then true else if c = '[' then false else closes s := by
  unfold closes
  by_cases closing : c = ']'
  · simp [closing]
  · by_cases opening : c = '['
    · simp [opening]
    · simp [closing, opening]

theorem opensTag_cons (c : Char) (s : List Char) :
    opensTag (c :: s) = (isTagStart c && closes s) := rfl

theorem isTagStart_ne {c : Char} (start : isTagStart c = true) :
    c ≠ '[' ∧ c ≠ ']' := by
  constructor <;> rintro rfl <;> revert start <;> decide

theorem closes_of_opensTag {s : List Char} (opens : opensTag s = true) : closes s = true := by
  cases s with
  | nil => cases opens
  | cons c rest =>
    rw [opensTag_cons, Bool.and_eq_true] at opens
    obtain ⟨start, closing⟩ := opens
    obtain ⟨notOpening, notClosing⟩ := isTagStart_ne start
    rw [closes_cons, if_neg notClosing, if_neg notOpening]
    exact closing

def noBracket (s : List Char) : Bool :=
  s.all fun d => d ≠ '[' && d ≠ ']'

theorem noBracket_cons {c : Char} {s : List Char} :
    noBracket (c :: s) = true ↔ (c ≠ '[' ∧ c ≠ ']') ∧ noBracket s = true := by
  simp [noBracket]

theorem noBracket_append (s t : List Char) :
    noBracket (s ++ t) = (noBracket s && noBracket t) :=
  List.all_append

theorem closes_append_eq (s after : List Char) :
    closes (s ++ after) = if noBracket s then closes after else closes s := by
  induction s with
  | nil => rfl
  | cons c rest ih =>
    rw [List.cons_append, closes_cons, closes_cons, ih]
    by_cases closing : c = ']'
    · simp [closing, noBracket]
    · by_cases opening : c = '['
      · simp [opening, noBracket]
      · simp [closing, opening, noBracket]

theorem closes_append {s : List Char} (free : noBracket s = true) (after : List Char) :
    closes (s ++ after) = closes after := by
  rw [closes_append_eq, if_pos free]

theorem exists_of_closes {s : List Char} (closing : closes s = true) :
    ∃ front rest, s = front ++ ']' :: rest ∧ noBracket front = true := by
  induction s with
  | nil => cases closing
  | cons c more ih =>
    rw [closes_cons] at closing
    split at closing
    · next bracket =>
      subst bracket
      exact ⟨[], more, rfl, rfl⟩
    · next notClosing =>
      split at closing
      · cases closing
      · next notOpening =>
        obtain ⟨front, rest, rfl, free⟩ := ih closing
        exact ⟨c :: front, rest, rfl, noBracket_cons.mpr ⟨⟨notOpening, notClosing⟩, free⟩⟩

def isPlain (s : List Char) : Bool :=
  s.all fun c => c ≠ '[' && c ≠ ']' && c ≠ '\\'

theorem noBracket_of_isPlain {s : List Char} (plain : isPlain s = true) : noBracket s = true := by
  simp only [isPlain, noBracket, List.all_eq_true, Bool.and_eq_true] at plain ⊢
  exact fun c there => (plain c there).1

theorem ne_of_isPlain {s : List Char} (plain : isPlain s = true) :
    ∀ c ∈ s, c ≠ '[' ∧ c ≠ '\\' := by
  simp only [isPlain, List.all_eq_true, Bool.and_eq_true, decide_eq_true_eq] at plain
  exact fun c there => ⟨(plain c there).1.1, (plain c there).2⟩

/-- Whether a text is what can stand between the brackets of a tag. -/
def isBody : List Char → Bool
  | [] => false
  | c :: rest => isTagStart c && noBracket rest

theorem opensTag_body {body : List Char} (tag : isBody body = true) (rest : List Char) :
    opensTag (body ++ ']' :: rest) = true := by
  cases body with
  | nil => cases tag
  | cons c more =>
    rw [isBody, Bool.and_eq_true] at tag
    obtain ⟨start, free⟩ := tag
    rw [List.cons_append, opensTag_cons, start, closes_append free, closes_cons]
    rfl

theorem exists_body_of_opensTag {s : List Char} (opens : opensTag s = true) :
    ∃ body rest, s = body ++ ']' :: rest ∧ isBody body = true := by
  cases s with
  | nil => cases opens
  | cons c more =>
    rw [opensTag_cons, Bool.and_eq_true] at opens
    obtain ⟨start, closing⟩ := opens
    obtain ⟨front, rest, rfl, free⟩ := exists_of_closes closing
    exact ⟨c :: front, rest, rfl, by rw [isBody, start, free]; rfl⟩

theorem noBracket_of_isBody {body : List Char} (tag : isBody body = true) :
    noBracket body = true := by
  cases body with
  | nil => rfl
  | cons c more =>
    rw [isBody, Bool.and_eq_true] at tag
    exact noBracket_cons.mpr ⟨isTagStart_ne tag.1, tag.2⟩

end Lookahead

section Reading

def bodies (found : List Token) : List (List Char) :=
  found.filterMap fun
    | .text _ => none
    | .tag _ body => some body

@[simp] theorem bodies_append (found more : List Token) :
    bodies (found ++ more) = bodies found ++ bodies more :=
  List.filterMap_append

@[simp] theorem bodies_textToken (text : List Char) : bodies (textToken text) = [] := by
  unfold textToken
  split <;> rfl

section Rows

variable (position : Nat) (c : Char) (rest : List Char)

theorem tokensFrom_text (s : List Char) (run : Nat) :
    tokensFrom position (.text s run) (c :: rest) =
      if c = '\\' then tokensFrom (position + 1) (.text s (run + 1)) rest
      else if c = '[' && opensTag rest then
        textToken s.reverse ++ textToken (List.replicate (run / 2) '\\')
          ++ tokensFrom (position + 1)
            (if run % 2 = 0 then .tag position [] else .literal ['[']) rest
      else tokensFrom (position + 1) (.text (c :: List.replicate run '\\' ++ s) 0) rest := rfl

theorem tokensFrom_tag (start : Nat) (body : List Char) :
    tokensFrom position (.tag start body) (c :: rest) =
      if c = ']' then .tag start body.reverse :: tokensFrom (position + 1) (.text [] 0) rest
      else tokensFrom (position + 1) (.tag start (c :: body)) rest := rfl

theorem tokensFrom_literal (s : List Char) :
    tokensFrom position (.literal s) (c :: rest) =
      if c = ']' then .text (c :: s).reverse :: tokensFrom (position + 1) (.text [] 0) rest
      else tokensFrom (position + 1) (.literal (c :: s)) rest := rfl

end Rows

inductive Reading.Alike : Reading → Reading → Prop
  | text {s t : List Char} (run : Nat) : Alike (.text s run) (.text t run)
  | tag {i j : Nat} (body : List Char) : Alike (.tag i body) (.tag j body)
  | literal {s t : List Char} : Alike (.literal s) (.literal t)

theorem bodies_tokensFrom {a b : Reading} (alike : a.Alike b) (i j : Nat) (s : List Char) :
    bodies (tokensFrom i a s) = bodies (tokensFrom j b s) := by
  induction s generalizing a b i j with
  | nil =>
    cases alike with
    | text run => exact (bodies_textToken _).trans (bodies_textToken _).symm
    | tag body => rfl
    | literal => exact (bodies_textToken _).trans (bodies_textToken _).symm
  | cons c rest ih =>
    cases alike with
    | text run =>
      rw [tokensFrom_text, tokensFrom_text]
      by_cases backslash : c = '\\'
      · simp only [if_pos backslash]
        exact ih (.text _) _ _
      · simp only [if_neg backslash]
        split
        · simp only [bodies_append, bodies_textToken, List.nil_append]
          split
          · exact ih (.tag _) _ _
          · exact ih .literal _ _
        · exact ih (.text _) _ _
    | tag body =>
      rw [tokensFrom_tag, tokensFrom_tag]
      split
      · exact congrArg (_ :: ·) (ih (.text 0) _ _)
      · exact ih (.tag _) _ _
    | literal =>
      rw [tokensFrom_literal, tokensFrom_literal]
      split
      · exact ih (.text 0) _ _
      · exact ih .literal _ _

/-- The tags of some markup that stands after `run` backslashes. -/
def tagsAfter (run : Nat) (s : List Char) : List (List Char) :=
  bodies (tokensFrom 0 (.text [] run) s)

def tagsInTag (body s : List Char) : List (List Char) :=
  bodies (tokensFrom 0 (.tag 0 body) s)

def tagsInLiteral (s : List Char) : List (List Char) :=
  bodies (tokensFrom 0 (.literal []) s)

theorem tags_eq_tagsAfter (s : List Char) : tags s = tagsAfter 0 s := rfl

theorem tagsAfter_nil (run : Nat) : tagsAfter run [] = [] :=
  bodies_textToken _

theorem tagsAfter_cons (run : Nat) (c : Char) (rest : List Char) :
    tagsAfter run (c :: rest) =
      if c = '\\' then tagsAfter (run + 1) rest
      else if c = '[' && opensTag rest then
        if run % 2 = 0 then tagsInTag [] rest else tagsInLiteral rest
      else tagsAfter 0 rest := by
  rw [tagsAfter, tokensFrom_text]
  split
  · exact bodies_tokensFrom (.text _) _ _ _
  · split
    · rw [bodies_append, bodies_append, bodies_textToken, bodies_textToken]
      split
      · exact bodies_tokensFrom (.tag _) _ _ _
      · exact bodies_tokensFrom .literal _ _ _
    · exact bodies_tokensFrom (.text _) _ _ _

theorem tagsInTag_cons (body : List Char) (c : Char) (rest : List Char) :
    tagsInTag body (c :: rest) =
      if c = ']' then body.reverse :: tagsAfter 0 rest else tagsInTag (c :: body) rest := by
  rw [tagsInTag, tokensFrom_tag]
  split
  · exact congrArg (_ :: ·) (bodies_tokensFrom (.text 0) _ _ _)
  · exact bodies_tokensFrom (.tag _) _ _ _

theorem tagsInLiteral_cons (c : Char) (rest : List Char) :
    tagsInLiteral (c :: rest) = if c = ']' then tagsAfter 0 rest else tagsInLiteral rest := by
  rw [tagsInLiteral, tokensFrom_literal]
  split
  · exact bodies_tokensFrom (.text 0) _ _ _
  · exact bodies_tokensFrom .literal _ _ _

theorem tagsAfter_backslashes (run n : Nat) (s : List Char) :
    tagsAfter run (List.replicate n '\\' ++ s) = tagsAfter (run + n) s := by
  induction n generalizing run with
  | zero => rfl
  | succ n ih =>
    rw [List.replicate_succ, List.cons_append, tagsAfter_cons, if_pos rfl, ih, Nat.add_assoc,
      Nat.add_comm 1]

theorem tagsAfter_text {c : Char} {rest : List Char} (other : c ≠ '\\')
    (text : c = '[' → opensTag rest = false) (run : Nat) :
    tagsAfter run (c :: rest) = tagsAfter 0 rest := by
  have noTag : ¬(c = '[' && opensTag rest) = true := by
    intro tag
    rw [Bool.and_eq_true, decide_eq_true_eq] at tag
    rw [text tag.1] at tag
    cases tag.2
  rw [tagsAfter_cons, if_neg other, if_neg noTag]

theorem tagsAfter_newline (run : Nat) (rest : List Char) :
    tagsAfter run ('\n' :: rest) = tagsAfter 0 rest :=
  tagsAfter_text (by decide) (by simp) run

theorem tagsAfter_bracket {rest : List Char} (opens : opensTag rest = true) (run : Nat) :
    tagsAfter run ('[' :: rest) =
      if run % 2 = 0 then tagsInTag [] rest else tagsInLiteral rest := by
  rw [tagsAfter_cons, if_neg (by decide), if_pos (by simp [opens])]

theorem tagsInTag_append {s : List Char} (free : noBracket s = true) (body rest : List Char) :
    tagsInTag body (s ++ ']' :: rest) = (body.reverse ++ s) :: tagsAfter 0 rest := by
  induction s generalizing body with
  | nil => rw [List.nil_append, tagsInTag_cons, if_pos rfl, List.append_nil]
  | cons c more ih =>
    obtain ⟨⟨-, notClosing⟩, free⟩ := noBracket_cons.mp free
    rw [List.cons_append, tagsInTag_cons, if_neg notClosing, ih free, List.reverse_cons,
      List.append_assoc, List.singleton_append]

theorem tagsInLiteral_append {s : List Char} (free : noBracket s = true) (rest : List Char) :
    tagsInLiteral (s ++ ']' :: rest) = tagsAfter 0 rest := by
  induction s with
  | nil => rw [List.nil_append, tagsInLiteral_cons, if_pos rfl]
  | cons c more ih =>
    obtain ⟨⟨-, notClosing⟩, free⟩ := noBracket_cons.mp free
    rw [List.cons_append, tagsInLiteral_cons, if_neg notClosing, ih free]

/-- A tag is found unless an odd number of backslashes stands before it. -/
theorem tagsAfter_tag {body : List Char} (tag : isBody body = true) (run : Nat)
    (rest : List Char) :
    tagsAfter run ('[' :: (body ++ ']' :: rest)) =
      (if run % 2 = 0 then [body] else []) ++ tagsAfter 0 rest := by
  have free := noBracket_of_isBody tag
  rw [tagsAfter_bracket (opensTag_body tag rest), tagsInTag_append free, tagsInLiteral_append free]
  split <;> rfl

theorem tagsAfter_plain {s : List Char} (plain : ∀ c ∈ s, c ≠ '[' ∧ c ≠ '\\') {run : Nat}
    (reset : run = 0 ∨ s ≠ []) (rest : List Char) :
    tagsAfter run (s ++ rest) = tagsAfter 0 rest := by
  induction s generalizing run with
  | nil =>
    rw [reset.resolve_right (· rfl)]
    rfl
  | cons c more ih =>
    obtain ⟨notOpening, notBackslash⟩ := plain c List.mem_cons_self
    rw [List.cons_append, tagsAfter_text notBackslash fun opening => absurd opening notOpening]
    exact ih (fun d there => plain d (List.mem_cons_of_mem c there)) (.inl rfl)

end Reading

section Showing

/-- Tags of which none has anything after its name. -/
def Tags.Bare (tags : Tags) : Prop :=
  ∀ tag ∈ tags.opened ++ tags.closed, tag.parameters = none

theorem checkStyle_forM {tags : List OpenTag} (bare : ∀ tag ∈ tags, tag.parameters = none) :
    tags.forM OpenTag.checkStyle = .ok () := by
  induction tags with
  | nil => rfl
  | cons tag rest ih =>
    have first : tag.checkStyle = .ok () := by
      rw [OpenTag.checkStyle, bare tag List.mem_cons_self]
    rw [List.forM, first]
    exact ih fun other there => bare other (List.mem_cons_of_mem tag there)

theorem Tags.Bare.plainFrom_nil {tags : Tags} (bare : tags.Bare) (pictographs : Pictographs) :
    plainFrom pictographs tags [] = .ok [] := by
  have closed : (tags.closed.reverse.filter (!·.isAction)).forM OpenTag.checkStyle = .ok () := by
    refine checkStyle_forM fun tag there => bare tag (List.mem_append_right _ ?_)
    exact List.mem_reverse.mp (List.mem_filter.mp there).1
  have opened : tags.opened.forM OpenTag.checkStyle = .ok () :=
    checkStyle_forM fun tag there => bare tag (List.mem_append_left _ there)
  rw [plainFrom, closed, opened]
  rfl

/-- The tags of some markup can be taken in one after the other, wherever they stand. -/
inductive Shows : Tags → List (List Char) → Prop
  | done {tags : Tags} : tags.Bare → Shows tags []
  | next {tags taken : Tags} {body : List Char} {rest : List (List Char)} :
      (∀ start, tags.take start body = .ok taken) → Shows taken rest → Shows tags (body :: rest)

theorem Shows.exists_plainFrom (pictographs : Pictographs) {tags : Tags} {found : List Token}
    (shows : Shows tags (bodies found)) : ∃ s, plainFrom pictographs tags found = .ok s := by
  induction found generalizing tags with
  | nil =>
    obtain ⟨bare⟩ := shows
    exact ⟨[], bare.plainFrom_nil pictographs⟩
  | cons token rest ih =>
    cases token with
    | text s =>
      obtain ⟨shown, plain⟩ := ih shows
      exact ⟨shownText pictographs s ++ shown, by rw [plainFrom, plain]; rfl⟩
    | tag start body =>
      obtain _ | ⟨taken, shows⟩ := shows
      obtain ⟨shown, plain⟩ := ih shows
      exact ⟨shown, by rw [plainFrom, taken start]; exact plain⟩

theorem exists_plain (pictographs : Pictographs) {markup : String}
    (shows : Shows {} (tags markup.toList)) : ∃ s, plain pictographs markup = .ok s :=
  shows.exists_plainFrom pictographs

end Showing

end Apidoc.Console
