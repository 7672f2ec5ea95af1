import Apidoc.Proofs.Ordered
import Apidoc.Proofs.Outcome
import Apidoc.Toml.Document

/-!
The table that a TOML document stands for has each of its keys once: every statement puts its value
in under a key, and a key that is there keeps its place.
-/
namespace Apidoc.Toml

def KeepsDistinct (change : Entries → Except Reason Entries) : Prop :=
  ∀ entries changed, change entries = .ok changed → entries.keys.Nodup → changed.keys.Nodup

theorem keepsDistinct_addNew (name : String) (value : Value) (taken : Reason) :
    KeepsDistinct (addNew name value taken) := by
  intro entries changed added distinct
  unfold addNew at added
  split at added
  · cases added
  · cases added
    exact Ordered.nodup_keys_insert distinct name value

theorem keepsDistinct_addTable (name : String) : KeepsDistinct (addTable name) := by
  intro entries changed added distinct
  unfold addTable at added
  split at added
  · cases added
    exact Ordered.nodup_keys_insert distinct name _
  · cases added
    exact Ordered.nodup_keys_insert distinct name _
  · cases added

theorem keepsDistinct_changeAt (throughArrays : Bool) {change : Entries → Except Reason Entries}
    (keeps : KeepsDistinct change) (key : Key) :
    KeepsDistinct (changeAt throughArrays change key) := by
  intro entries changed made distinct
  cases key with
  | nil => exact keeps entries changed made distinct
  | cons part rest =>
    rw [changeAt] at made
    split at made
    · obtain ⟨inner, -, put⟩ := bind_eq_ok_iff.mp made
      cases put
      exact Ordered.nodup_keys_insert distinct part _
    · obtain ⟨inner, -, put⟩ := bind_eq_ok_iff.mp made
      cases put
      exact Ordered.nodup_keys_insert distinct part _
    · split at made
      · obtain ⟨inner, -, put⟩ := bind_eq_ok_iff.mp made
        cases put
        exact Ordered.nodup_keys_insert distinct part _
      · cases made
    · cases made

namespace Draft

variable {d next : Draft} {key : Key} {after : List Char}

theorem nodup_assign {value : Value} (assigned : d.assign key value after = .ok next)
    (distinct : d.entries.keys.Nodup) : next.entries.keys.Nodup := by
  unfold assign at assigned
  simp only at assigned
  split at assigned
  · cases assigned
  · split at assigned
    · cases assigned
    · split at assigned
      · cases assigned
      · next entries changed =>
        cases assigned
        exact keepsDistinct_changeAt _ (keepsDistinct_addNew _ _ _) _ _ _ changed distinct

theorem nodup_openTable (opened : d.openTable key after = .ok next)
    (distinct : d.entries.keys.Nodup) : next.entries.keys.Nodup := by
  unfold openTable at opened
  split at opened
  · cases opened
  · split at opened
    · cases opened
    · next entries changed =>
      cases opened
      apply keepsDistinct_changeAt _ ?_ _ _ _ changed distinct
      rintro same _ ⟨⟩ distinct
      exact distinct

theorem nodup_openInArray (opened : d.openInArray key after = .ok next)
    (distinct : d.entries.keys.Nodup) : next.entries.keys.Nodup := by
  unfold openInArray at opened
  split at opened
  · cases opened
  · split at opened
    · cases opened
    · next entries changed =>
      cases opened
      exact keepsDistinct_changeAt _ (keepsDistinct_addTable _) _ _ _ changed distinct

end Draft

variable {d next : Draft} {s rest : List Char}

theorem nodup_readDeclaration (read : readDeclaration d s = .ok (next, rest))
    (distinct : d.entries.keys.Nodup) : next.entries.keys.Nodup := by
  unfold readDeclaration at read
  split at read
  · simp only [bind_eq_ok_iff] at read
    obtain ⟨⟨key, after⟩, -, opened, isOpened, closed⟩ := read
    have still := Draft.nodup_openInArray isOpened distinct
    split at closed
    · cases closed
      exact still
    · cases closed
  · simp only [bind_eq_ok_iff] at read
    obtain ⟨⟨key, after⟩, -, opened, isOpened, closed⟩ := read
    have still := Draft.nodup_openTable isOpened distinct
    split at closed
    · cases closed
      exact still
    · cases closed

/-- One statement leaves the keys distinct. -/
theorem nodup_readStatement (read : readStatement d s = .ok (next, rest))
    (distinct : d.entries.keys.Nodup) : next.entries.keys.Nodup := by
  unfold readStatement at read
  split at read
  · cases read
    exact distinct
  · split at read
    · cases read
      exact distinct
    · split at read
      · simp only [bind_eq_ok_iff] at read
        obtain ⟨_, -, ⟨value, after⟩, -, assigned, isAssigned, made⟩ := read
        cases made
        exact Draft.nodup_assign isAssigned distinct
      · split at read
        · obtain ⟨⟨declared, after⟩, isDeclared, made⟩ := bind_eq_ok_iff.mp read
          cases made
          exact nodup_readDeclaration isDeclared distinct
        · cases read

theorem nodup_readStatements (read : readStatements d s = .ok next)
    (distinct : d.entries.keys.Nodup) : next.entries.keys.Nodup := by
  induction length : s.length using Nat.strongRecOn generalizing d s with
  | ind n ih =>
    rw [readStatements] at read
    obtain ⟨⟨stated, left⟩, isStated, read⟩ := bind_eq_ok_iff.mp read
    obtain ⟨after, -, read⟩ := bind_eq_ok_iff.mp read
    have still := nodup_readStatement isStated distinct
    split at read
    · cases read
      exact still
    · next more front =>
      have short := length_endLike_le s after
      rw [front, List.length_cons] at short
      exact ih more.length (by omega) read still rfl
    · cases read

theorem nodup_keys_parse {text : List Char} {entries : Entries}
    (parsed : parse text = .ok entries) : entries.keys.Nodup := by
  unfold parse at parsed
  simp only at parsed
  split at parsed
  · next d read =>
    cases parsed
    exact nodup_readStatements read List.nodup_nil
  · cases parsed
  · cases parsed

end Apidoc.Toml
