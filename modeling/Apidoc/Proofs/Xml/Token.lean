import Apidoc.Proofs.Xml.Name
import Apidoc.Xml.Prolog.Token

/-!
Which tokens the scanners of the prolog give, and what the names among them are made of.
-/
namespace Apidoc.Xml.Prolog

variable {token : Token} {chars after text : List Char}

theorem scanAside_token {aside : Aside} (scanned : scanAside aside text = .ok (token, after)) :
    ∃ declaration, token = .aside declaration := by
  fun_induction scanAside aside text <;> grind [stopAt]

theorem scanLiteral_token {quote : Char}
    (scanned : scanLiteral quote chars text = .ok (token, after)) :
    ∃ chars, token = .literal chars := by
  fun_induction scanLiteral quote chars text <;> grind [stopAt]

theorem scanDeclaration_token (scanned : scanDeclaration chars text = .ok (token, after)) :
    ∃ word, token = .declaration word := by
  fun_induction scanDeclaration chars text <;> grind [stopAt]

theorem scanParameter_token (scanned : scanParameter text = .ok (token, after)) :
    token = .parameter := by
  fun_induction scanParameter text <;> grind [stopAt]

theorem scanKeyword_token (scanned : scanKeyword chars text = .ok (token, after)) :
    ∃ chars, token = .keyword chars := by
  fun_induction scanKeyword chars text <;> grind [stopAt]

theorem scanName_token {kind : NameKind}
    (scanned : scanName kind chars text = .ok (token, after)) :
    (∃ chars kind, token = .name chars kind) ∨ ∃ chars, token = .repeated chars := by
  fun_induction scanName kind chars text <;> grind [stopAt]

def PartOfName (chars text : List Char) : NameKind → Prop
  | .simple => isName chars = true
  | .prefixed => ∃ front more, chars = front ++ ':' :: more ∧ isName front = true ∧
      (∀ d ∈ more, isNameChar d = true) ∧
      (more ≠ [] ∨ ∃ d rest, text = d :: rest ∧ isNameChar d = true)
  | .loose => True

theorem partOfName_append {c : Char} {kind : NameKind} (part : PartOfName chars (c :: text) kind)
    (named : isNameChar c = true) : PartOfName (chars ++ [c]) text kind := by
  cases kind with
  | simple => exact isName_append part named
  | prefixed =>
    obtain ⟨front, more, rfl, name, others, -⟩ := part
    refine ⟨front, more ++ [c], by simp, name, ?_, Or.inl (by simp)⟩
    intro e there
    rcases List.mem_append.mp there with before | last
    · exact others e before
    · rw [List.mem_singleton.mp last]
      exact named
  | loose => trivial

theorem isKey_of_partOfName {kind : NameKind} (part : PartOfName chars text kind)
    (strict : kind ≠ .loose) (ended : ∀ d rest, text = d :: rest → isNameChar d = false) :
    IsKey chars := by
  cases kind with
  | simple => exact Or.inl part
  | prefixed =>
    obtain ⟨front, more, rfl, name, others, nonempty | ⟨d, rest, rfl, named⟩⟩ := part
    · obtain ⟨c, more, rfl⟩ := List.exists_cons_of_ne_nil nonempty
      exact Or.inr ⟨front, c, more, rfl, name, others⟩
    · rw [ended d rest rfl] at named
      cases named
  | loose => exact absurd rfl strict

theorem scanName_isKey {kind kind' : NameKind} {chars' : List Char}
    (scanned : scanName kind chars text = .ok (.name chars' kind', after))
    (strict : kind' ≠ .loose) (part : PartOfName chars text kind) : IsKey chars' := by
  fun_induction scanName kind chars text with
  | case1 kind chars =>
    cases scanned
    exact isKey_of_partOfName part strict (by simp)
  | case2 kind chars c rest named ih => exact ih scanned (partOfName_append part named)
  | case3 kind chars c rest other ending =>
    cases scanned
    refine isKey_of_partOfName part strict ?_
    rintro d rest ⟨⟩
    simpa using other
  | case4 => cases scanned
  | case5 chars c other ending colon d rest ih =>
    have colon : c = ':' := by simpa using colon
    refine ih scanned ?_
    split
    · next named =>
      exact ⟨chars, [], by rw [colon], part, by simp, Or.inr ⟨d, rest, rfl, named⟩⟩
    · trivial
  | case6 kind chars c rest other ending colon _ _ ih => exact ih scanned trivial
  | case7 => cases scanned
  | case8 => cases scanned

def Token.isMark : Token → Bool
  | .blank => false
  | .aside _ => false
  | .declaration _ => false
  | .root => false
  | .sectionOpen => false
  | .name _ _ => false
  | .repeated _ => false
  | _ => true

theorem scanToken_cases {c : Char} {rest : List Char}
    (scanned : scanToken c rest = .ok (token, after)) :
    (isSpace c = true ∧ token = .blank ∧ after = rest.dropWhile isSpace) ∨
      (c = '<' ∧ scanLess rest = .ok (token, after)) ∨
      (isNameStart c = true ∧ scanName .simple [c] rest = .ok (token, after)) ∨
      scanName .loose [c] rest = .ok (token, after) ∨ token.isMark = true := by
  unfold scanToken at scanned
  by_cases quote : (c == '"' || c == '\'') = true
  · rw [if_pos quote] at scanned
    obtain ⟨_, rfl⟩ := scanLiteral_token scanned
    simp [Token.isMark]
  by_cases less : (c == '<') = true
  · rw [if_neg quote, if_pos less] at scanned
    exact Or.inr (Or.inl ⟨by simpa using less, scanned⟩)
  by_cases space : isSpace c = true
  · rw [if_neg quote, if_neg less, if_pos space] at scanned
    cases scanned
    exact Or.inl ⟨space, rfl, rfl⟩
  rw [if_neg quote, if_neg less, if_neg space] at scanned
  by_cases percent : (c == '%') = true
  · rw [if_pos percent] at scanned
    grind [Token.isMark, stopAt, scanParameter_token]
  by_cases bracket : (c == ']') = true
  · have closing : c = ']' := by simpa using bracket
    have apart : ¬(c == ',') = true ∧ ¬(c == '|') = true ∧ ¬(c == '>') = true ∧
        ¬(c == '[') = true := by
      rw [closing]
      decide
    obtain ⟨comma, bar, close, opening⟩ := apart
    rw [if_neg percent, if_neg comma, if_neg bar, if_neg close, if_neg opening, if_pos bracket]
      at scanned
    split at scanned <;> cases scanned <;> simp [Token.isMark]
  by_cases paren : (c == ')') = true
  · rw [if_neg percent, if_neg bracket, if_pos paren] at scanned
    grind [Token.isMark, stopAt]
  by_cases hash : (c == '#') = true
  · rw [if_neg percent, if_neg bracket, if_neg paren, if_pos hash] at scanned
    grind [Token.isMark, stopAt, scanKeyword_token]
  · rw [if_neg percent, if_neg bracket, if_neg paren, if_neg hash] at scanned
    grind [Token.isMark, stopAt]

theorem scanLess_ne_name {kind : NameKind} : scanLess text ≠ .ok (.name chars kind, after) := by
  intro scanned
  unfold scanLess stopAt at scanned
  split at scanned
  · cases scanned
  · split at scanned
    · cases scanned
    · obtain ⟨_, other⟩ := scanAside_token scanned
      cases other
    · cases scanned
    · split at scanned
      · obtain ⟨_, other⟩ := scanDeclaration_token scanned
        cases other
      · cases scanned
  · obtain ⟨_, other⟩ := scanAside_token scanned
    cases other
  · split at scanned <;> cases scanned

theorem scanName_loose {kind : NameKind} {chars' : List Char}
    (scanned : scanName .loose chars text = .ok (.name chars' kind, after)) : kind = .loose := by
  generalize begun : NameKind.loose = first at scanned
  fun_induction scanName first chars text <;> grind [stopAt]

/-- A name that is not loose is one that a declaration may have. -/
theorem scanToken_isKey {c : Char} {rest : List Char} {kind : NameKind}
    (scanned : scanToken c rest = .ok (.name chars kind, after)) (strict : kind ≠ .loose) :
    IsKey chars := by
  rcases scanToken_cases scanned with
    ⟨-, blank, -⟩ | ⟨-, less⟩ | ⟨initial, simple⟩ | loose | mark
  · cases blank
  · exact absurd less scanLess_ne_name
  · refine scanName_isKey simple strict ?_
    exact isName_cons.mpr ⟨initial, by simp⟩
  · exact absurd (scanName_loose loose) strict
  · cases mark

end Apidoc.Xml.Prolog
