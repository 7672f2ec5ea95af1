import Apidoc.Proofs.Command.Refusal
import Apidoc.Proofs.Encoding

/-!
What a command answers when its file of comments cannot be had. Most failures are problems of the
file, which are told and have an exit code of their own. The others break a command off: the check
of the encoding asks whether there is one of that name, not what it makes of bytes, and a path may
be such that one cannot even tell whether there is a file.
-/
namespace Apidoc

namespace CommentFile

variable {decoders : Encoding.Decoders} {find : Path → Place} {path : Path} {encoding : String}
  {fault : ReadFault}

/-- A problem that is told about a file: there is none, it cannot be opened, its bytes are not text,
or its text is not that of a file of comments. -/
inductive Refusal (decoders : Encoding.Decoders) (find : Path → Place) (path : Path)
    (encoding : String) : Problem → Prop
  | absent {why : PathFault} (there : find path = .absent why) (seen : why.isBlind = false) :
      Refusal decoders find path encoding (.file path.shown "file does not exist")
  | directory (there : find path = .directory) :
      Refusal decoders find path encoding (.file path.shown "file does not exist")
  | unreadable {why : PathFault} (there : find path = .unreadable why) :
      Refusal decoders find path encoding (.file path.shown (why.message path))
  | undecodable {bytes : List UInt8} {fault : Encoding.Fault} (there : find path = .file bytes)
      (garbled : Encoding.readText decoders encoding bytes = .error (.undecodable fault)) :
      Refusal decoders find path encoding (.file path.shown fault.message)
  | illFormed {bytes : List UInt8} {text reason : String} (there : find path = .file bytes)
      (decoded : Encoding.readText decoders encoding bytes = .ok text)
      (refused : parse text path.shown = .error (.comment path.shown reason)) :
      Refusal decoders find path encoding (.comment path.shown reason)

inductive Escaping (decoders : Encoding.Decoders) (find : Path → Place) (path : Path)
    (encoding : String) : ReadFault → Prop
  | hidden {why : PathFault} (there : find path = .absent why) (blind : why.isBlind = true) :
      Escaping decoders find path encoding (.path why path)
  | unusable {bytes : List UInt8} {fault : Encoding.ReadFault} (there : find path = .file bytes)
      (unusable : Encoding.Unusable decoders encoding bytes fault) :
      Escaping decoders find path encoding (.encoding fault)

theorem parse_error {text source : String} {p : Problem} (failed : parse text source = .error p) :
    ∃ reason, p = .comment source reason := by
  unfold parse at failed
  split at failed
  · cases failed
    exact ⟨_, rfl⟩
  · split at failed
    · cases failed
    · cases failed
      exact ⟨_, rfl⟩

theorem Refusal.read {p : Problem} (refusal : Refusal decoders find path encoding p)
    (noNull : '\x00' ∉ encoding.toList) :
    read decoders find path encoding = .error (.problem p) := by
  unfold CommentFile.read
  cases refusal with
  | absent there seen => simp only [there, seen, Bool.false_eq_true, if_false]
  | directory there => simp only [there]
  | unreadable there =>
    have plain : encoding.toList.contains '\x00' = false := by simpa using noNull
    simp only [there, plain, Bool.false_eq_true, if_false]
  | undecodable there garbled => simp only [there, garbled]
  | illFormed there decoded refused =>
    simp only [there, decoded, refused]
    rfl

theorem Escaping.read (escaping : Escaping decoders find path encoding fault)
    (accepted : Settings.checkEncoding encoding = .ok ()) :
    read decoders find path encoding = .error fault := by
  unfold CommentFile.read
  cases escaping with
  | hidden there blind => simp only [there, blind, if_true]
  | unusable there unusable =>
    simp only [there, ((Encoding.unusable_iff accepted).mp unusable).1]
    cases unusable <;> rfl

theorem cause_of_read (accepted : Settings.checkEncoding encoding = .ok ())
    (failed : read decoders find path encoding = .error fault) :
    (∃ p, fault = .problem p ∧ Refusal decoders find path encoding p) ∨
      Escaping decoders find path encoding fault := by
  unfold read at failed
  split at failed
  · next bytes there =>
    split at failed
    · next text decoded =>
      obtain ⟨p, refused, rfl⟩ := mapError_eq_error_iff.mp failed
      obtain ⟨reason, rfl⟩ := parse_error refused
      exact .inl ⟨_, rfl, .illFormed there decoded refused⟩
    · next f garbled =>
      cases failed
      exact .inl ⟨_, rfl, .undecodable there garbled⟩
    · next f other notRead =>
      cases failed
      have unusable := (Encoding.unusable_iff accepted).mpr ⟨notRead, other⟩
      exact .inr (.unusable there unusable)
  · next why there =>
    split at failed
    · next null =>
      rw [List.contains_iff_mem] at null
      exact absurd null (Settings.checkEncoding_eq_ok_iff.mp accepted).2.1
    · cases failed
      exact .inl ⟨_, rfl, .unreadable there⟩
  · next why there =>
    split at failed
    · next blind =>
      cases failed
      exact .inr (.hidden there blind)
    · next seen =>
      cases failed
      exact .inl ⟨_, rfl, .absent there ((Bool.not_eq_true _).mp seen)⟩
  · next there =>
    cases failed
    exact .inl ⟨_, rfl, .directory there⟩

/-- Every failure of reading a file is told as a problem or is one of those that escape. -/
theorem read_error_iff (accepted : Settings.checkEncoding encoding = .ok ()) :
    read decoders find path encoding = .error fault ↔
      (∃ p, fault = .problem p ∧ Refusal decoders find path encoding p) ∨
        Escaping decoders find path encoding fault := by
  constructor
  · exact cause_of_read accepted
  · rintro (⟨p, rfl, refusal⟩ | escaping)
    · exact refusal.read (Settings.checkEncoding_eq_ok_iff.mp accepted).2.1
    · exact escaping.read accepted

end CommentFile

namespace Command

open CommentFile (Refusal Escaping)
open Settings (Surroundings)

variable {around : Surroundings} {request : Request} {settings : Settings}

def failureOf? : CommentFile.ReadFault → Option Failure
  | .problem _ => none
  | .encoding fault => some (.encoding fault)
  | .path fault path => some (.path fault path)

theorem withCatalog_refused {p : Problem} {host : Host}
    (loaded : settingsFor around request = .ok settings)
    (refused : CommentFile.read host.decoders around.find request.file settings.encoding =
      .error (.problem p))
    (next : Outcome → Catalog → Outcome) :
    (withCatalog around host request next).exit = inputError ∧
      (withCatalog around host request next).failure = none := by
  have plain : ∀ c ∈ "Error:".toList, c ≠ '[' ∧ c ≠ '\\' := by simp
  have none : catalogFor around host.decoders settings request.file = ([], .error (.inl p)) := by
    unfold catalogFor
    rw [refused]
  unfold withCatalog
  rw [loaded]
  simp only [none]
  exact answer_say_alert plain _ host p.text

theorem withCatalog_broken {fault : CommentFile.ReadFault} {failure : Failure} {host : Host}
    (loaded : settingsFor around request = .ok settings)
    (failed : CommentFile.read host.decoders around.find request.file settings.encoding =
      .error fault)
    (escapes : failureOf? fault = some failure) (next : Outcome → Catalog → Outcome) :
    (withCatalog around host request next).exit = notFound ∧
      (withCatalog around host request next).failure = some failure := by
  have none : catalogFor around host.decoders settings request.file =
      ([], .error (.inr failure)) := by
    unfold catalogFor
    rw [failed]
    cases fault with
    | problem p => cases escapes
    | encoding f =>
      cases escapes
      rfl
    | path f p =>
      cases escapes
      rfl
  unfold withCatalog
  rw [loaded]
  simp only [none]
  exact ⟨rfl, rfl⟩

/-- How the failures of reading a file are contained, and how a command answers them, whatever
decoders there are. -/
structure InputContained (around : Surroundings) : Prop where
  failures : ∀ decoders path encoding fault, Settings.checkEncoding encoding = .ok () →
    (CommentFile.read decoders around.find path encoding = .error fault ↔
      (∃ p, fault = .problem p ∧ Refusal decoders around.find path encoding p) ∨
        Escaping decoders around.find path encoding fault)
  encodings : ∀ decoders path encoding fault, Encoding.Orderly decoders →
    Escaping decoders around.find path encoding (.encoding fault) →
    ∃ e ∈ Encoding.unruly, Encoding.named? encoding = some e
  told : ∀ (host : Host) (command : Command) settings p, command.ReadsSettings →
    settingsFor around command.request = .ok settings →
    Refusal host.decoders around.find command.request.file settings.encoding p →
    (command.run around host).exit = inputError ∧ (command.run around host).failure = none
  broken : ∀ (host : Host) (command : Command) settings fault, command.ReadsSettings →
    settingsFor around command.request = .ok settings →
    Escaping host.decoders around.find command.request.file settings.encoding fault →
    (command.run around host).exit = notFound ∧
      (command.run around host).failure = failureOf? fault ∧ (failureOf? fault).isSome

theorem checkEncoding_of_load (loaded : settingsFor around request = .ok settings) :
    Settings.checkEncoding settings.encoding = .ok () := by
  have allowed : Settings.Allowed .encoding (settings.get .encoding) :=
    Settings.allowed_of_load loaded .encoding
  exact Settings.checkEncoding_eq_ok_iff.mpr allowed

/-- A file that is not read is told about with the exit code for input, except for the failures that
escape, which break a command off. -/
theorem input_contained (around : Surroundings) : InputContained around where
  failures _ _ _ _ accepted := CommentFile.read_error_iff accepted
  encodings := by
    intro decoders path encoding fault orderly escaping
    cases escaping with
    | unusable there unusable => exact unusable.named orderly
  told := by
    intro host command settings p reads loaded refusal
    obtain ⟨next, same⟩ := reads.run_eq around host
    have accepted := checkEncoding_of_load loaded
    have refused := CommentFile.read_error_iff accepted |>.mpr (.inl ⟨p, rfl, refusal⟩)
    rw [same]
    exact withCatalog_refused loaded refused next
  broken := by
    intro host command settings fault reads loaded escaping
    obtain ⟨next, same⟩ := reads.run_eq around host
    have accepted := checkEncoding_of_load loaded
    have failed := CommentFile.read_error_iff accepted |>.mpr (.inr escaping)
    have escapes : ∃ failure, failureOf? fault = some failure := by
      cases escaping with
      | hidden there blind => exact ⟨_, rfl⟩
      | unusable there unusable => exact ⟨_, rfl⟩
    obtain ⟨failure, escapes⟩ := escapes
    rw [same, escapes]
    obtain ⟨exit, broken⟩ := withCatalog_broken loaded failed escapes next
    exact ⟨exit, broken, rfl⟩

/-- A file `<doc/>` in UTF-16 without a mark, and settings that name this encoding. -/
def unmarkedInput : Surroundings where
  find path :=
    if path = ⟨"", ["a.xml"]⟩ then
      .file [0x3C, 0, 0x64, 0, 0x6F, 0, 0x63, 0, 0x2F, 0, 0x3E, 0]
    else .absent .missing
  current := ⟨"/", ["work"]⟩
  account := ⟨"/", ["home"]⟩
  environment name := if name = "DOCWEAVE_ENCODING" then some "utf-16" else none

theorem unmarkedInput_breaks_off :
    Settings.checkEncoding "utf-16" = .ok () ∧
      CommentFile.read Encoding.noDecoders unmarkedInput.find (.ofString "a.xml") "utf-16" =
        .error (.encoding (.noMark 16)) ∧
      ((Command.list ⟨.ofString "a.xml", none, false, false⟩ none).run
        unmarkedInput sampleHost).exit = notFound :=
  ⟨by decide +kernel, rfl, by decide +kernel⟩

end Command

end Apidoc
