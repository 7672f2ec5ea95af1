import Apidoc.Command
import Apidoc.Proofs.Console.Item
import Apidoc.Proofs.Settings.Failures

/-!
What a command answers when its settings cannot be had. A problem of configuration is told in a
message and has an exit code of its own; any other failure breaks the command off.
-/
namespace Apidoc.Command

open Console Settings

section Alert

variable {label : String}

def alertItem (label text : String) : Item where
  style := .red
  label := label
  gap := .space
  body := text

theorem alert_eq (plain : ∀ c ∈ label.toList, c ≠ '[' ∧ c ≠ '\\') (text : String) :
    '\n' :: (alert label text).toList = (alertItem label text).before [] := by
  simp only [alert, Report.styled, Item.before, Heading.before, alertItem, escape_plain plain,
    String.toList_append, List.append_assoc, List.append_nil]
  rfl

theorem plain_alert (plain : ∀ c ∈ label.toList, c ≠ '[' ∧ c ≠ '\\') (pictographs : Pictographs)
    (text : String) : ∃ shown, Console.plain pictographs (alert label text) = .ok shown := by
  have none : Tags.Bare {} := nofun
  refine exists_plain pictographs ?_
  rw [tags_eq_tagsAfter, ← tagsAfter_newline, alert_eq plain, Item.tagsAfter_before _ 0 rfl,
    tagsAfter_nil]
  exact (alertItem label text).shows none fun _ => .done

/-- A message in red is printed, whatever it says, and changes nothing else. -/
theorem say_alert (plain : ∀ c ∈ label.toList, c ≠ '[' ∧ c ≠ '\\') (o : Outcome) (host : Host)
    (text : String) :
    ∃ lines, o.say host (alert label text) = { o with output := o.output ++ printed lines } := by
  obtain ⟨shown, read⟩ := plain_alert plain host.pictographs text
  rw [Outcome.say, read]
  exact ⟨_, rfl⟩

/-- A message in red changes neither the exit code nor what a command breaks off with. -/
theorem answer_say_alert (plain : ∀ c ∈ label.toList, c ≠ '[' ∧ c ≠ '\\') (o : Outcome)
    (host : Host) (text : String) :
    (o.say host (alert label text)).exit = o.exit ∧
      (o.say host (alert label text)).failure = o.failure := by
  obtain ⟨lines, said⟩ := say_alert plain o host text
  rw [said]
  exact ⟨rfl, rfl⟩

end Alert

/-- Whether a command looks at its settings at all; a kind that is not known is told before. -/
def ReadsSettings : Command → Prop
  | .list _ kind => ∀ word, kind = some word → Kind.isWord word = true
  | .inspect _ _ => True

theorem ReadsSettings.run_eq {command : Command} (reads : command.ReadsSettings)
    (around : Surroundings) (host : Host) :
    ∃ next, command.run around host = withCatalog around host command.request next := by
  cases command with
  | list request kind =>
    have known : kind.filter (!Kind.isWord ·) = none := by
      cases kind with
      | none => rfl
      | some word => simp [reads word rfl]
    rw [run, known]
    exact ⟨_, rfl⟩
  | inspect request id =>
    rw [run]
    exact ⟨_, rfl⟩

structure Contained (around : Surroundings) : Prop where
  accepted : ∀ named overrides s, load around named overrides = .ok s →
    ∀ field, Allowed field (s.get field)
  refused : ∀ named overrides fault, load around named overrides = .error fault →
    fault.IsRefusal ∨ Escaping around named overrides fault
  escaped : ∀ named overrides fault, Escaping around named overrides fault →
    load around named overrides = .error fault ∧ ¬fault.IsRefusal
  told : ∀ host (command : Command) fault, command.ReadsSettings →
    settingsFor around command.request = .error fault → fault.IsRefusal →
    (command.run around host).exit = configError ∧ (command.run around host).failure = none
  broken : ∀ host (command : Command) fault, command.ReadsSettings →
    settingsFor around command.request = .error fault → ¬fault.IsRefusal →
    (command.run around host).exit = notFound ∧
      (command.run around host).failure = some (.settings fault)

/-- Settings that are had are allowed. Every failure is told with the exit code for settings, except
for the listed ones, which break a command off. -/
theorem settings_contained (around : Surroundings) : Contained around where
  accepted _ _ _ loaded field := allowed_of_load loaded field
  refused named overrides fault failed := by
    by_cases refusal : fault.IsRefusal
    · exact .inl refusal
    · exact .inr (escaping_iff.mpr ⟨failed, refusal⟩)
  escaped _ _ _ escaping := escaping_iff.mp escaping
  told host command fault reads failed refusal := by
    obtain ⟨next, same⟩ := reads.run_eq around host
    obtain ⟨p, rfl, -⟩ := refusal
    have plain : ∀ c ∈ "Configuration error:".toList, c ≠ '[' ∧ c ≠ '\\' := by simp
    rw [same, withCatalog, failed]
    exact answer_say_alert plain { exit := configError } host p.text
  broken host command fault reads failed escaping := by
    obtain ⟨next, same⟩ := reads.run_eq around host
    have other := (escaping_iff.mpr ⟨failed, escaping⟩).ne_problem
    rw [same, withCatalog, failed]
    cases fault with
    | problem p => exact absurd rfl (other p)
    | _ => exact ⟨rfl, rfl⟩

def sampleHost : Host := ⟨80, noPictographs, Encoding.noDecoders⟩

def garbledProject : Surroundings where
  find path :=
    if path = ⟨"/", ["work", projectFile]⟩ then .file [0xFF] else .absent .missing
  current := ⟨"/", ["work"]⟩
  account := ⟨"/", ["home"]⟩
  environment _ := none

theorem garbledProject_breaks_off :
    load garbledProject none [] =
        .error (.undecodable ⟨"utf-8", 0xFF, 0, 1, .invalidStart⟩) ∧
      ¬(LoadFault.undecodable ⟨"utf-8", 0xFF, 0, 1, .invalidStart⟩).IsRefusal ∧
      ((Command.inspect ⟨.ofString "a.xml", none, false, false⟩ "T:A").run
        garbledProject sampleHost).exit = notFound :=
  ⟨rfl, not_isRefusal nofun, rfl⟩

end Apidoc.Command
