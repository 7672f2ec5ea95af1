import Apidoc.Proofs.Xml.Token
import Apidoc.Proofs.Xml.Value
import Apidoc.Xml.Document

/-!
What a document type declaration can say about attributes: each one has a key that a declaration
may have, and a default value that a document may hold.
-/
namespace Apidoc.Xml

def AttributeRule.Sound (rule : AttributeRule) : Prop :=
  IsKey rule.key ∧ ∀ value, rule.default? = some value → AllLegal value

def Doctype.Sound (doctype : Doctype) : Prop :=
  ∀ rule ∈ doctype.rules, rule.Sound

namespace Prolog

def Place.key? : Place → Option (List Char)
  | .attlistType _ key => some key
  | .attlistChoice _ key => some key
  | .attlistChoiceEnd _ key => some key
  | .attlistNotation _ key => some key
  | .attlistNotationChoice _ key => some key
  | .attlistNotationEnd _ key => some key
  | .attlistDefault _ key _ => some key
  | .attlistFixed _ key _ => some key
  | _ => none

variable {survey survey' : Survey} {token : Token} {left : Nat}

inductive Taken (survey : Survey) (token : Token) (left : Nat) (survey' : Survey) : Prop where
  | leaves (rules : survey'.rules = survey.rules) (keyless : survey'.place.key? = none)
  | keeps (rules : survey'.rules = survey.rules) (same : survey'.place.key? = survey.place.key?)
  | names (chars : List Char) (kind : NameKind) (named : token = .name chars kind)
      (strict : kind ≠ .loose) (rules : survey'.rules = survey.rules)
      (key : survey'.place.key? = some chars)
  | declares (tag key : List Char) (plain : Bool) (default? : Option (List Char))
      (current : survey.place.key? = some key) (keyless : survey'.place.key? = none)
      (rules : survey'.rules = (survey.declareRule ⟨tag, key, plain, default?⟩).rules)
      (given : ∀ value, default? = some value →
        ∃ chars, defaultValue survey plain chars left = .ok value)

theorem rules_declare (survey : Survey) (name : Option (List Char)) (entity : Entity) :
    (survey.declare name entity).rules = survey.rules := by
  unfold Survey.declare
  split
  · rfl
  · split <;> rfl

theorem declares_default {tag key chars : List Char} {plain : Bool}
    (current : survey.place.key? = some key)
    (taken : (if !survey.active then pure (survey.moveTo (.attlistName tag))
      else do
        let value ← defaultValue survey plain chars left
        pure ((survey.declareRule ⟨tag, key, plain, some value⟩).moveTo (.attlistName tag)))
      = Except.ok survey') : Taken survey token left survey' := by
  split at taken
  · cases taken
    exact .leaves rfl rfl
  · obtain ⟨value, read, done⟩ := bind_eq_ok_iff.mp taken
    cases done
    refine .declares tag key plain (some value) current rfl rfl ?_
    rintro other ⟨⟩
    exact ⟨chars, read⟩

theorem take_taken (taken : survey.take token left = .ok survey') :
    Taken survey token left survey' := by
  unfold Survey.take at taken
  dsimp only at taken
  split at taken
  -- Most tokens only move on. The branches that remain declare an entity or an attribute, choose
  -- its type, or refuse the token.
  all_goals first
    | (cases taken; exact .leaves rfl rfl)
    | (split_ifs at taken <;> cases taken <;> exact .leaves rfl rfl)
    | (cases taken; exact .keeps rfl rfl)
    | (next place => cases taken; exact .keeps rfl (by rw [place]; rfl))
    | (cases taken; exact .leaves (rules_declare _ _ _) rfl)
    | (cases taken; exact .names _ _ rfl (by decide) rfl rfl)
    | (obtain ⟨_, _, done⟩ := bind_eq_ok_iff.mp taken; cases done; exact .leaves rfl rfl)
    | skip
  · split at taken
    · cases taken
      exact .leaves rfl rfl
    · obtain ⟨text, -, done⟩ := bind_eq_ok_iff.mp taken
      cases done
      exact .leaves (rules_declare _ _ _) rfl
  · next place =>
    split_ifs at taken <;> cases taken <;> exact .keeps rfl (by rw [place]; rfl)
  · next place =>
    split_ifs at taken
    · cases taken
      exact .declares _ _ _ none (by rw [place]; rfl) rfl rfl (by simp)
    · cases taken
      exact .keeps rfl (by rw [place]; rfl)
  · next place => exact declares_default (by rw [place]; rfl) taken
  · next place => exact declares_default (by rw [place]; rfl) taken
  · split at taken <;> cases taken

def Survey.Sound (survey : Survey) : Prop :=
  (∀ rule ∈ survey.rules, rule.Sound) ∧ ∀ key, survey.place.key? = some key → IsKey key

theorem take_sound (sound : survey.Sound) (taken : survey.take token left = .ok survey')
    (named : ∀ chars kind, token = .name chars kind → kind ≠ .loose → IsKey chars) :
    survey'.Sound := by
  cases take_taken taken with
  | leaves rules keyless =>
    rw [Survey.Sound, rules, keyless]
    exact ⟨sound.1, by simp⟩
  | keeps rules same =>
    rw [Survey.Sound, rules, same]
    exact sound
  | names chars kind name strict rules key =>
    rw [Survey.Sound, rules, key]
    refine ⟨sound.1, ?_⟩
    rintro key' ⟨⟩
    exact named chars kind name strict
  | declares tag key plain default? current keyless rules given =>
    rw [Survey.Sound, rules, keyless]
    refine ⟨?_, by simp⟩
    unfold Survey.declareRule
    split
    · intro rule there
      rcases List.mem_append.mp there with old | new
      · exact sound.1 rule old
      · rw [List.mem_singleton.mp new]
        refine ⟨sound.2 key current, ?_⟩
        intro value default
        obtain ⟨chars, read⟩ := given value default
        exact defaultValue_legal read
    · exact sound.1

end Prolog

open Prolog (Survey)

theorem takeDeclaration_sound {survey survey' : Survey} {text after : List Char}
    (sound : survey.Sound) (taken : takeDeclaration survey text after = .ok survey') :
    survey'.Sound := by
  unfold takeDeclaration at taken
  split at taken
  · cases taken
    exact ⟨sound.1, by simp [Prolog.Place.key?, Survey.moveTo]⟩
  · cases taken

theorem readProlog_sound {survey : Survey} {text body : List Char} {doctype : Doctype}
    (sound : survey.Sound) (read : readProlog survey text = .ok (doctype, body)) :
    doctype.Sound := by
  fun_induction readProlog survey text with
  | case1 => cases read
  | case2 => cases read
  | case3 =>
    cases read
    exact sound.1
  | case4 =>
    cases read
    exact sound.1
  | case5 => cases read
  | case6 survey c rest token after _ _ length _ _ ih =>
    obtain ⟨next, taken, later⟩ := bind_eq_ok_iff.mp read
    exact ih next (takeDeclaration_sound sound taken) later
  | case7 survey c rest left token after _ scanned length _ _ ih =>
    obtain ⟨next, taken, later⟩ := bind_eq_ok_iff.mp read
    refine ih next (Prolog.take_sound sound taken ?_) later
    rintro chars kind rfl strict
    exact Prolog.scanToken_isKey scanned strict

end Apidoc.Xml
