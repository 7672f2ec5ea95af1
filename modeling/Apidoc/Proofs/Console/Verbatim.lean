import Apidoc.Proofs.Console.Tags
import Apidoc.Proofs.Outcome

/-!
Text that is not escaped before it is read as markup. Reading makes no text longer, and whatever the
reader acts on makes it shorter, so a text is shown as it stands exactly when there is nothing in it
to act on. Text that means nothing to the reader can be added at the end without any effect on what
comes before it.
-/
namespace Apidoc.Console

section Brackets

theorem dropBracketEscapes_cons {c : Char} {rest : List Char}
    (other : c = '\\' → rest.head? ≠ some '[') :
    dropBracketEscapes (c :: rest) = c :: dropBracketEscapes rest := by
  rw [dropBracketEscapes]
  intro more backslash same
  rw [same] at other
  exact other backslash rfl

theorem length_dropBracketEscapes_le (s : List Char) :
    (dropBracketEscapes s).length ≤ s.length := by
  fun_induction dropBracketEscapes s with
  | case1 => exact Nat.le_refl 0
  | case2 rest ih =>
    simp only [List.length_cons]
    omega
  | case3 c rest _ ih =>
    simp only [List.length_cons]
    omega

theorem dropBracketEscapes_eq_self {s : List Char} (free : ¬['\\', '['] <:+: s) :
    dropBracketEscapes s = s := by
  induction s with
  | nil => rfl
  | cons c rest ih =>
    rw [List.infix_cons_iff, not_or] at free
    obtain ⟨notFirst, notLater⟩ := free
    have other : c = '\\' → rest.head? ≠ some '[' := by
      intro backslash bracket
      obtain ⟨more, rfl⟩ := List.head?_eq_some_iff.mp bracket
      exact notFirst ⟨more, by rw [backslash]; rfl⟩
    rw [dropBracketEscapes_cons other, ih notLater]

theorem not_infix_of_length_dropBracketEscapes {s : List Char}
    (kept : (dropBracketEscapes s).length = s.length) : ¬['\\', '['] <:+: s := by
  fun_induction dropBracketEscapes s with
  | case1 => simp
  | case2 rest ih =>
    have shorter := length_dropBracketEscapes_le rest
    simp only [List.length_cons] at kept
    omega
  | case3 c rest other ih =>
    simp only [List.length_cons, Nat.add_right_cancel_iff] at kept
    rw [List.infix_cons_iff, not_or]
    refine ⟨?_, ih kept⟩
    rintro ⟨more, same⟩
    cases same
    exact other more rfl rfl

end Brackets

variable (pictographs : Pictographs)

section Names

def pending : Option (List Char) → List Char
  | none => []
  | some name => ':' :: name.reverse

theorem replaceNamesFrom_nil (state : Option (List Char)) :
    replaceNamesFrom pictographs state [] = pending state := by
  cases state <;> rfl

theorem length_takeVariant_le (name : List Char) :
    (takeVariant name).1.length + (takeVariant name).2.length ≤ name.length := by
  have cut {ending : List Char} (some : ending ≠ []) (there : ending.isSuffixOf name = true) :
      (name.take (name.length - ending.length)).length + 1 ≤ name.length := by
    have long := (List.isSuffixOf_iff_suffix.mp there).length_le
    have short := List.length_pos_iff.mpr some
    rw [List.length_take]
    omega
  unfold takeVariant
  split
  · next emoji => exact cut (by decide) emoji
  · split
    · next text => exact cut (by decide) text
    · exact Nat.le_refl _

theorem length_replaceName_le (name : List Char) :
    (replaceName pictographs name).length ≤ name.length + 2 := by
  have variant := length_takeVariant_le name
  unfold replaceName pictograph?
  cases found : pictographs.find? (Text.lower (takeVariant name).1) with
  | none => simp [found]
  | some picture =>
    have short := pictographs.short _ _ found
    simp only [found, Option.map_some, Option.getD_some, List.length_append]
    omega

theorem length_replaceNamesFrom_le (state : Option (List Char)) (s : List Char) :
    (replaceNamesFrom pictographs state s).length ≤ (pending state).length + s.length := by
  induction s generalizing state with
  | nil => rw [replaceNamesFrom_nil]; exact Nat.le_add_right _ _
  | cons c rest ih =>
    have fresh := ih none
    cases state with
    | none =>
      have named := ih (some [])
      unfold replaceNamesFrom
      split
      · simp only [pending, List.length_cons, List.reverse_nil] at named ⊢
        omega
      · simp only [pending, List.length_cons, List.length_nil] at fresh ⊢
        omega
    | some name =>
      have longer := ih (some (c :: name))
      have replaced := length_replaceName_le pictographs name.reverse
      unfold replaceNamesFrom
      simp only [pending, List.length_cons, List.length_nil, List.length_reverse] at *
      split
      · rw [List.length_append]
        omega
      · split
        · simp only [List.length_cons, List.length_append, List.length_reverse]
          omega
        · omega

theorem length_replaceNames_le (s : List Char) :
    (replaceNames pictographs s).length ≤ s.length := by
  have bound := length_replaceNamesFrom_le pictographs none s
  rwa [pending, List.length_nil, Nat.zero_add] at bound

end Names

section Text

theorem length_shownText_le (s : List Char) :
    (shownText pictographs s).length ≤ s.length := by
  calc (shownText pictographs s).length
      ≤ (replaceNames pictographs (dropBracketEscapes s)).length := List.length_filter_le _ _
    _ ≤ (dropBracketEscapes s).length := length_replaceNames_le pictographs _
    _ ≤ s.length := length_dropBracketEscapes_le s

/-- Text without a tag is shown as it stands when it has no bracket after a backslash, no name of a
pictograph and no character that moves the cursor. -/
theorem shownText_eq_self_iff (s : List Char) :
    shownText pictographs s = s ↔
      ¬['\\', '['] <:+: s ∧ replaceNames pictographs s = s ∧ ∀ c ∈ s, isControl c = false := by
  constructor
  · intro same
    have filtered := List.length_filter_le (!isControl ·)
      (replaceNames pictographs (dropBracketEscapes s))
    have named := length_replaceNames_le pictographs (dropBracketEscapes s)
    have total := congrArg List.length same
    rw [shownText] at same total
    -- What is shown is as long as the text, and so is everything between the two.
    have free : ¬['\\', '['] <:+: s := not_infix_of_length_dropBracketEscapes
      (Nat.le_antisymm (length_dropBracketEscapes_le s) (by omega))
    rw [dropBracketEscapes_eq_self free] at same total filtered named
    have unfiltered := List.filter_sublist.eq_of_length (Nat.le_antisymm filtered (by omega))
    rw [unfiltered] at same
    rw [same, List.filter_eq_self] at unfiltered
    exact ⟨free, same, fun c there => by simpa using unfiltered c there⟩
  · rintro ⟨free, named, noControl⟩
    rw [shownText, dropBracketEscapes_eq_self free, named]
    exact List.filter_eq_self.mpr fun c there => by rw [noControl c there]; rfl

end Text

section Tags

def textLength : List Token → Nat
  | [] => 0
  | .text s :: rest => s.length + textLength rest
  | .tag _ _ :: rest => textLength rest

@[simp] theorem textLength_text (s : List Char) (rest : List Token) :
    textLength (.text s :: rest) = s.length + textLength rest := rfl

@[simp] theorem textLength_tag (start : Nat) (body : List Char) (rest : List Token) :
    textLength (.tag start body :: rest) = textLength rest := rfl

@[simp] theorem textLength_append (found more : List Token) :
    textLength (found ++ more) = textLength found + textLength more := by
  induction found with
  | nil => exact (Nat.zero_add _).symm
  | cons token rest ih =>
    cases token with
    | text s => rw [List.cons_append, textLength_text, textLength_text, ih, Nat.add_assoc]
    | tag start body => exact ih

@[simp] theorem textLength_textToken (s : List Char) : textLength (textToken s) = s.length := by
  unfold textToken
  split
  · next empty =>
    rw [List.isEmpty_iff.mp empty]
    rfl
  · exact textLength_text s []

def Reading.held : Reading → List Char
  | .text s run => s.reverse ++ List.replicate run '\\'
  | .tag _ body => '[' :: body.reverse
  | .literal s => s.reverse

theorem tokensFrom_nil (position : Nat) (reading : Reading) :
    tokensFrom position reading [] = textToken reading.held := by
  cases reading <;> rfl

theorem textLength_tokensFrom_le (position : Nat) (reading : Reading) (s : List Char) :
    textLength (tokensFrom position reading s) ≤ reading.held.length + s.length := by
  induction s generalizing position reading with
  | nil => rw [tokensFrom_nil, textLength_textToken]; exact Nat.le_add_right _ _
  | cons c rest ih =>
    cases reading with
    | text t run =>
      have counted := ih (position + 1) (.text t (run + 1))
      have held := ih (position + 1) (.text (c :: List.replicate run '\\' ++ t) 0)
      have opened := ih (position + 1) (if run % 2 = 0 then .tag position [] else .literal ['['])
      have bracket :
          (if run % 2 = 0 then Reading.tag position [] else .literal ['[']).held = ['['] := by
        split <;> rfl
      rw [bracket] at opened
      rw [tokensFrom_text]
      simp only [Reading.held, List.length_cons, List.length_append, List.length_reverse,
        List.length_replicate, List.length_nil] at *
      split
      · omega
      · split
        · simp only [textLength_append, textLength_textToken, List.length_reverse,
            List.length_replicate]
          omega
        · omega
    | tag start body =>
      have longer := ih (position + 1) (.tag start (c :: body))
      have closed := ih (position + 1) (.text [] 0)
      rw [tokensFrom_tag]
      simp only [Reading.held, List.length_cons, List.length_append, List.length_reverse,
        List.length_replicate, List.length_nil] at *
      split
      · rw [textLength_tag]
        omega
      · omega
    | literal t =>
      have longer := ih (position + 1) (.literal (c :: t))
      have closed := ih (position + 1) (.text [] 0)
      rw [tokensFrom_literal]
      simp only [Reading.held, List.length_cons, List.length_append, List.length_reverse,
        List.length_replicate, List.length_nil] at *
      split
      · simp only [textLength_text, List.length_reverse, List.length_cons]
        omega
      · omega

theorem tokensFrom_body {body : List Char} (free : noBracket body = true) (position start : Nat)
    (before rest : List Char) :
    tokensFrom position (.tag start before) (body ++ ']' :: rest) =
      .tag start (before.reverse ++ body) ::
        tokensFrom (position + body.length + 1) (.text [] 0) rest := by
  induction body generalizing position before with
  | nil => rw [List.nil_append, tokensFrom_tag, if_pos rfl, List.append_nil]; rfl
  | cons c more ih =>
    obtain ⟨⟨-, notClosing⟩, free⟩ := noBracket_cons.mp free
    rw [List.cons_append, tokensFrom_tag, if_neg notClosing, ih free, List.reverse_cons,
      List.append_assoc, List.singleton_append, List.length_cons, Nat.add_right_comm position 1]
    rfl

/-- A bracket that opens a tag is not shown, nor is one of the backslashes before it. -/
theorem textLength_opened_lt {rest : List Char} (opens : opensTag rest = true)
    (position run : Nat) (t : List Char) :
    textLength (tokensFrom position (.text t run) ('[' :: rest)) <
      t.length + run + (rest.length + 1) := by
  rw [tokensFrom_text, if_neg (by decide), if_pos (by simp [opens])]
  simp only [textLength_append, textLength_textToken, List.length_reverse, List.length_replicate]
  split
  · obtain ⟨body, more, rfl, isBody⟩ := exists_body_of_opensTag opens
    have after := textLength_tokensFrom_le (position + 1 + body.length + 1) (.text [] 0) more
    rw [tokensFrom_body (noBracket_of_isBody isBody), textLength_tag]
    simp only [Reading.held, List.length_append, List.length_reverse, List.length_cons,
      List.length_nil, List.length_replicate] at after ⊢
    omega
  · have after := textLength_tokensFrom_le (position + 1) (.literal ['[']) rest
    simp only [Reading.held, List.length_cons, List.length_reverse, List.length_nil] at after
    omega

theorem textLength_lt {s rest : List Char} (there : '[' :: rest <:+ s)
    (opens : opensTag rest = true) (position run : Nat) (t : List Char) :
    textLength (tokensFrom position (.text t run) s) < t.length + run + s.length := by
  induction s generalizing position run t with
  | nil => simp at there
  | cons c more ih =>
    rw [List.length_cons]
    rcases List.suffix_cons_iff.mp there with same | later
    · cases same
      exact textLength_opened_lt opens position run t
    · rw [tokensFrom_text]
      split
      · have counted := ih later (position + 1) (run + 1) t
        omega
      · next notBackslash =>
        split
        · -- An earlier bracket that opens a tag makes the text shorter just as well.
          next tag =>
          rw [Bool.and_eq_true, decide_eq_true_eq] at tag
          obtain ⟨rfl, opensHere⟩ := tag
          have here := textLength_opened_lt opensHere position run t
          rwa [tokensFrom_text, if_neg notBackslash, if_pos (by simp [opensHere])] at here
        · have held := ih later (position + 1) 0 (c :: List.replicate run '\\' ++ t)
          simp only [List.length_cons, List.length_append, List.length_replicate] at held
          omega

/-- Whether no bracket of a text opens a tag. -/
def Tagless (s : List Char) : Prop :=
  ∀ rest, '[' :: rest <:+ s → opensTag rest = false

theorem tokensFrom_tagless {s : List Char} (tagless : Tagless s) (position run : Nat)
    (t : List Char) :
    tokensFrom position (.text t run) s =
      textToken (t.reverse ++ List.replicate run '\\' ++ s) := by
  induction s generalizing position run t with
  | nil => rw [List.append_nil]; rfl
  | cons c rest ih =>
    have tail : Tagless rest := by
      intro more there
      exact tagless more (there.trans (List.suffix_cons c rest))
    have later := ih tail
    rw [tokensFrom_text]
    split
    · next backslash =>
      rw [later, backslash, List.replicate_succ', List.append_assoc, List.append_assoc,
        List.append_assoc, List.singleton_append]
    · split
      · next tag =>
        rw [Bool.and_eq_true, decide_eq_true_eq] at tag
        obtain ⟨rfl, opens⟩ := tag
        rw [tagless rest List.suffix_rfl] at opens
        cases opens
      · rw [later]
        simp

theorem length_plainFrom_le {tags : Tags} {found : List Token} {shown : List Char}
    (read : plainFrom pictographs tags found = .ok shown) : shown.length ≤ textLength found := by
  induction found generalizing tags shown with
  | nil =>
    rw [plainFrom] at read
    obtain ⟨-, -, read⟩ := bind_eq_ok_iff.mp read
    obtain ⟨-, -, read⟩ := bind_eq_ok_iff.mp read
    cases read
    exact Nat.zero_le _
  | cons token rest ih =>
    cases token with
    | text s =>
      rw [plainFrom, map_eq_ok_iff] at read
      obtain ⟨later, read, rfl⟩ := read
      have bound := length_shownText_le pictographs s
      have boundLater := ih read
      rw [List.length_append, textLength_text]
      omega
    | tag start body =>
      rw [plainFrom] at read
      obtain ⟨taken, -, read⟩ := bind_eq_ok_iff.mp read
      rw [textLength_tag]
      exact ih read

end Tags

/-- A text in which there is nothing for the reader of markup to act on. -/
structure Verbatim (pictographs : Pictographs) (s : List Char) : Prop where
  tagless : Tagless s
  unescaped : ¬['\\', '['] <:+: s
  nameless : replaceNames pictographs s = s
  uncontrolled : ∀ c ∈ s, isControl c = false

theorem plainFrom_textToken (tags : Tags) (s : List Char) (more : List Token) :
    plainFrom pictographs tags (textToken s ++ more) =
      (plainFrom pictographs tags more).map (shownText pictographs s ++ ·) := by
  unfold textToken
  split
  · next empty =>
    rw [List.isEmpty_iff.mp empty, List.nil_append]
    cases plainFrom pictographs tags more <;> rfl
  · rfl

theorem plain_eq_of_tagless {markup : String} (tagless : Tagless markup.toList) :
    plain pictographs markup = .ok (shownText pictographs markup.toList) := by
  have read : plainFrom pictographs {} [] = .ok [] := rfl
  rw [plain, tokens, tokensFrom_tagless tagless, ← List.append_nil (textToken _),
    plainFrom_textToken, read]
  simp [Except.map]

/-- Text that is not escaped is shown as it stands if and only if it is verbatim. -/
theorem plain_eq_self_iff (markup : String) :
    plain pictographs markup = .ok markup.toList ↔ Verbatim pictographs markup.toList := by
  constructor
  · intro same
    have tagless : Tagless markup.toList := by
      intro rest there
      rw [← Bool.not_eq_true]
      intro opens
      have shorter := textLength_lt there opens 0 0 []
      have long := length_plainFrom_le pictographs same
      simp only [tokens, List.length_nil] at shorter long
      omega
    rw [plain_eq_of_tagless pictographs tagless, Except.ok.injEq, shownText_eq_self_iff] at same
    obtain ⟨unescaped, nameless, uncontrolled⟩ := same
    exact ⟨tagless, unescaped, nameless, uncontrolled⟩
  · intro verbatim
    rw [plain_eq_of_tagless pictographs verbatim.tagless, (shownText_eq_self_iff _ _).mpr
      ⟨verbatim.unescaped, verbatim.nameless, verbatim.uncontrolled⟩]

section Inert

/-- Whether a character means nothing to the reader of markup, wherever it stands. -/
def isInert (c : Char) : Bool :=
  c ≠ '[' && c ≠ ']' && c ≠ '\\' && c ≠ ':' && !isControl c

variable {after : List Char} (inert : ∀ c ∈ after, isInert c = true)

include inert

theorem of_isInert {c : Char} (there : c ∈ after) :
    c ≠ '[' ∧ c ≠ ']' ∧ c ≠ '\\' ∧ c ≠ ':' ∧ isControl c = false := by
  simpa [isInert, and_assoc] using inert c there

theorem noBracket_of_isInert : noBracket after = true := by
  rw [noBracket, List.all_eq_true]
  intro c there
  simp [of_isInert inert there]

theorem opensTag_append (s : List Char) : opensTag (s ++ after) = opensTag s := by
  have free := noBracket_of_isInert inert
  have unclosed : closes after = false := by
    rw [← List.append_nil after, closes_append free]
    rfl
  cases s with
  | nil =>
    change opensTag after = false
    rw [← Bool.not_eq_true]
    intro opens
    rw [closes_of_opensTag opens] at unclosed
    cases unclosed
  | cons c rest =>
    rw [List.cons_append, opensTag_cons, opensTag_cons, closes_append_eq]
    split
    · next empty => rw [unclosed, ← List.append_nil rest, closes_append empty]; rfl
    · rfl

theorem dropBracketEscapes_append (s : List Char) :
    dropBracketEscapes (s ++ after) = dropBracketEscapes s ++ after := by
  fun_induction dropBracketEscapes s with
  | case1 =>
    refine dropBracketEscapes_eq_self fun bracket => ?_
    exact (of_isInert inert (bracket.subset (.tail _ (.head _)))).1 rfl
  | case2 rest ih => exact congrArg ('[' :: ·) ih
  | case3 c rest other ih =>
    rw [List.cons_append, dropBracketEscapes_cons, ih, List.cons_append]
    intro backslash bracket
    cases rest with
    | nil =>
      exact (of_isInert inert (List.mem_of_mem_head? bracket)).1 rfl
    | cons d more =>
      cases bracket
      exact other more backslash rfl

theorem replaceNamesFrom_inert (state : Option (List Char)) :
    replaceNamesFrom pictographs state after = pending state ++ after := by
  induction after generalizing state with
  | nil => rw [replaceNamesFrom_nil, List.append_nil]
  | cons c rest ih =>
    have notColon := (of_isInert inert List.mem_cons_self).2.2.2.1
    have later := ih fun d there => inert d (List.mem_cons_of_mem c there)
    cases state with
    | none =>
      rw [replaceNamesFrom, if_neg notColon, later]
      rfl
    | some name =>
      rw [replaceNamesFrom, if_neg notColon]
      split
      · rw [later]
        rfl
      · rw [later]
        simp [pending]

theorem replaceNamesFrom_append (state : Option (List Char)) (s : List Char) :
    replaceNamesFrom pictographs state (s ++ after) =
      replaceNamesFrom pictographs state s ++ after := by
  induction s generalizing state with
  | nil => rw [List.nil_append, replaceNamesFrom_inert pictographs inert, replaceNamesFrom_nil]
  | cons c rest ih =>
    cases state with
    | none =>
      rw [List.cons_append, replaceNamesFrom, replaceNamesFrom]
      split
      · exact ih (some [])
      · rw [ih]
        rfl
    | some name =>
      rw [List.cons_append, replaceNamesFrom, replaceNamesFrom]
      split
      · rw [ih, List.append_assoc]
      · split
        · rw [ih, List.append_assoc]
          rfl
        · exact ih (some (c :: name))

theorem shownText_append (s : List Char) :
    shownText pictographs (s ++ after) = shownText pictographs s ++ after := by
  have kept : after.filter (!isControl ·) = after := by
    rw [List.filter_eq_self]
    intro c there
    simp [of_isInert inert there]
  rw [shownText, dropBracketEscapes_append inert, replaceNames,
    replaceNamesFrom_append pictographs inert, List.filter_append, kept]
  rfl

theorem tokensFrom_inert (position : Nat) (reading : Reading) :
    tokensFrom position reading after = textToken (reading.held ++ after) := by
  induction after generalizing position reading with
  | nil => rw [tokensFrom_nil, List.append_nil]
  | cons c rest ih =>
    obtain ⟨notOpening, notClosing, notBackslash, -⟩ := of_isInert inert List.mem_cons_self
    have later := ih fun d there => inert d (List.mem_cons_of_mem c there)
    cases reading with
    | text s run =>
      rw [tokensFrom_text, if_neg notBackslash, if_neg (by simp [notOpening]), later]
      simp [Reading.held]
    | tag start body =>
      rw [tokensFrom_tag, if_neg notClosing, later]
      simp [Reading.held]
    | literal s =>
      rw [tokensFrom_literal, if_neg notClosing, later]
      simp [Reading.held]

theorem plainFrom_append (tags : Tags) (position : Nat) (reading : Reading) (s : List Char) :
    plainFrom pictographs tags (tokensFrom position reading (s ++ after)) =
      (plainFrom pictographs tags (tokensFrom position reading s)).map (· ++ after) := by
  induction s generalizing tags position reading with
  | nil =>
    rw [List.nil_append, tokensFrom_inert inert, tokensFrom_nil, ← List.append_nil (textToken _),
      plainFrom_textToken, ← List.append_nil (textToken reading.held), plainFrom_textToken,
      shownText_append pictographs inert]
    cases read : plainFrom pictographs tags [] with
    | error fault => rfl
    | ok shown =>
      have empty : shown = [] := List.eq_nil_of_length_eq_zero
        (Nat.le_zero.mp (length_plainFrom_le pictographs read))
      rw [empty]
      simp [Except.map]
  | cons c rest ih =>
    rw [List.cons_append]
    cases reading with
    | text t run =>
      rw [tokensFrom_text, tokensFrom_text, opensTag_append inert]
      split
      · exact ih _ _ _
      · split
        · simp only [List.append_assoc, plainFrom_textToken, ih]
          cases plainFrom pictographs tags _ with
          | error fault => rfl
          | ok shown => simp [Except.map]
        · exact ih _ _ _
    | tag start body =>
      rw [tokensFrom_tag, tokensFrom_tag]
      split
      · rw [plainFrom, plainFrom]
        cases tags.take start body.reverse with
        | error fault => rfl
        | ok taken => exact ih taken _ _
      · exact ih _ _ _
    | literal t =>
      rw [tokensFrom_literal, tokensFrom_literal]
      split
      · rw [plainFrom, plainFrom, ih]
        cases plainFrom pictographs tags _ with
        | error fault => rfl
        | ok shown => simp [Except.map]
      · exact ih _ _ _

/-- Inert text after any other is shown as it stands and changes nothing of the rest. -/
theorem plain_append {markup longer : String} (same : longer.toList = markup.toList ++ after) :
    plain pictographs longer = (plain pictographs markup).map (· ++ after) := by
  rw [plain, tokens, same]
  exact plainFrom_append pictographs inert {} 0 _ _

end Inert

end Apidoc.Console
