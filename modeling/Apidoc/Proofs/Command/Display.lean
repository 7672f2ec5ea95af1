import Apidoc.Proofs.Command.Refusal
import Apidoc.Proofs.Report

/-!
What a command displays of an entity. The text of its documentation is shown as it is, apart from
two cases: backslashes at the end of a name, and links that make up a tag together. Only the second
can break a command off.
-/
namespace Apidoc.Command

open Console Report Settings

/-- The panel for an entity can be shown unless the texts of its links make up a tag. -/
theorem exists_panelOf {e : Entity} (apart : ¬LinksStray e) (host : Host) (id : String) :
    ∃ lines, panelOf host id e = .ok lines := by
  obtain ⟨title, titled⟩ :=
    exists_plain_escape host.pictographs ((e.name.filter (!·.isEmpty)).getD id)
  obtain ⟨body, shown⟩ := exists_plain_render host.pictographs apart
  rw [panelOf, titled, shown]
  exact ⟨_, rfl⟩

theorem failure_say_alert {label : String} (plain : ∀ c ∈ label.toList, c ≠ '[' ∧ c ≠ '\\')
    (o : Outcome) (host : Host) (text : String) :
    (o.say host (alert label text)).failure = o.failure :=
  (answer_say_alert plain o host text).2

/-- A catalog that cannot be had is no fault of markup. -/
theorem catalogFor_ne_markup (around : Surroundings) (decoders : Encoding.Decoders)
    (settings : Settings) (file : Path) (fault : MarkupFault) :
    (catalogFor around decoders settings file).2 ≠ .error (.inr (.markup fault)) := by
  unfold catalogFor
  split
  · nofun
  · nofun
  · nofun
  · split <;> nofun

def Finds (around : Surroundings) (host : Host) (request : Request) (id : String) (e : Entity) :
    Prop :=
  ∃ settings catalog, settingsFor around request = .ok settings ∧
    (catalogFor around host.decoders settings request.file).2 = .ok catalog ∧
    catalog.find? id = some e

/-- Markup breaks a command off only at an entity with links that make up a tag. -/
theorem straying_of_failure {around : Surroundings} {host : Host} {request : Request} {id : String}
    {fault : MarkupFault}
    (broken : ((Command.inspect request id).run around host).failure = some (.markup fault)) :
    ∃ e, Finds around host request id e ∧ LinksStray e := by
  have settingsLabel : ∀ c ∈ "Configuration error:".toList, c ≠ '[' ∧ c ≠ '\\' := by simp
  have inputLabel : ∀ c ∈ "Error:".toList, c ≠ '[' ∧ c ≠ '\\' := by simp
  have idLabel : ∀ c ∈ "No entity with id".toList, c ≠ '[' ∧ c ≠ '\\' := by simp
  rw [run, withCatalog] at broken
  split at broken
  · rw [failure_say_alert settingsLabel] at broken
    cases broken
  · cases broken
  · next settings loaded =>
    have other := catalogFor_ne_markup around host.decoders settings request.file fault
    cases built : (catalogFor around host.decoders settings request.file).2 with
    | error reason =>
      cases reason with
      | inl p =>
        simp only [built, failure_say_alert inputLabel] at broken
        cases broken
      | inr failure =>
        simp only [built] at broken
        cases broken
        exact absurd built other
    | ok catalog =>
      simp only [built] at broken
      cases there : catalog.find? id with
      | none =>
        simp only [there, failure_say_alert idLabel] at broken
        cases broken
      | some e =>
        refine ⟨e, ⟨settings, catalog, loaded, built, there⟩, ?_⟩
        by_contra apart
        obtain ⟨lines, shown⟩ := exists_panelOf apart host id
        simp only [there, shown] at broken
        cases broken

structure Displays (around : Surroundings) (host : Host) : Prop where
  found : ∀ e, tags (render e).toList = written e ↔ Clean e
  balanced : ∀ e, Balanced (written e)
  shown : ∀ e id, ¬LinksStray e → ∃ lines, panelOf host id e = .ok lines
  broken : ∀ request id fault,
    ((Command.inspect request id).run around host).failure = some (.markup fault) →
    ∃ e, Finds around host request id e ∧ LinksStray e

/-- Documentation acts as markup only through backslashes at the end of a name and through links
that make up a tag. -/
theorem documentation_displayed (around : Surroundings) (host : Host) : Displays around host where
  found e := tags_render_eq_iff e
  balanced e := balanced_written e
  shown _ id apart := exists_panelOf apart host id
  broken _ _ _ failed := straying_of_failure failed

def bracketed : Entity where
  id := some "T:A"
  name := some "A"
  fullName := some "A"
  stem := some "T_A"
  details := .type []
  seeAlso := [⟨some "y]", none, some "[/x"⟩]

theorem bracketed_breaks_off :
    tags (render bracketed).toList = written bracketed ++ ["/x (y".toList] ∧
      panelOf { sampleHost with width := 40 } "T:A" bracketed =
        .error (.unmatched "/x (y".toList 68) :=
  ⟨by decide, rfl⟩

end Apidoc.Command
