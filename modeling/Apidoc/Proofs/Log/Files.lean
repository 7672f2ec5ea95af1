import Apidoc.Log.Desk

/-!
What stands in the files of the log after any number of calls. The most recent set-up that took
effect decides which records matter enough and which file they go into. A file is only ever added
to, each record is written once, and the file of an earlier set-up is left alone.
-/
namespace Apidoc

def Folder.content (folder : Folder) (steps : List String) : List UInt8 :=
  (folder.files.lookup steps).getD []

def Folder.HasFile (folder : Folder) (steps : List String) : Prop :=
  steps ∈ folder.files.map Prod.fst

namespace Folder

variable (folder : Folder) (steps other : List String) (bytes : List UInt8)

theorem any_files_iff :
    folder.files.any (·.1 == steps) = true ↔ folder.HasFile steps := by
  simp [HasFile]

theorem lookup_eq_none_iff :
    folder.files.lookup steps = none ↔ ¬folder.HasFile steps := by
  rw [List.lookup_eq_none_iff, HasFile, List.mem_map]
  constructor
  · rintro apart ⟨file, there, rfl⟩
    simpa using apart file there
  · intro absent file there
    rw [bne_iff_ne]
    rintro rfl
    exact absent ⟨file, there, rfl⟩

theorem hasFile_append :
    (folder.append steps bytes).HasFile other ↔ folder.HasFile other ∨ other = steps := by
  unfold append
  split
  · next there =>
    rw [any_files_iff] at there
    have keys : (folder.files.map fun file =>
        if file.1 == steps then (file.1, file.2 ++ bytes) else file).map Prod.fst =
          folder.files.map Prod.fst := by
      rw [List.map_map]
      apply List.map_congr_left
      intro file _
      simp only [Function.comp_apply]
      split <;> rfl
    simp only [HasFile, keys]
    constructor
    · exact .inl
    · rintro (old | rfl)
      · exact old
      · exact there
  · next absent => simp [HasFile]

/-- A file that can be written: it is there, or it is not but could be made in a directory that is
there. `steps` lead to it from the folder. -/
inductive Writable (path : Path) (steps : List String) : Prop
  | present {bytes : List UInt8} (inner : folder.inner? path = some steps)
      (there : folder.find path = .file bytes) : Writable path steps
  | new (inner : folder.inner? path = some steps) (absent : folder.find path = .absent .missing)
      (parent : folder.isDirectory steps.dropLast = true) : Writable path steps

theorem Writable.inner {folder : Folder} {path : Path} {steps : List String}
    (writable : folder.Writable path steps) : folder.inner? path = some steps := by
  cases writable with
  | present inner there => exact inner
  | new inner absent parent => exact inner

end Folder

namespace Log

open Folder (Writable)

def wordFor : Int → String
  | 0 => "NOTSET"
  | 10 => "DEBUG"
  | 20 => "INFO"
  | 30 => "WARNING"
  | 40 => "ERROR"
  | 50 => "CRITICAL"
  | number => s!"Level {number}"

def lineOf (now : Moment) (logger : String) (level : Int) (message : String) : String :=
  stamp now ++ " - " ++ logger ++ " - " ++ wordFor level ++ " - " ++ message ++ "\n"

example : lineOf ⟨⟨2024, 1, 2⟩, ⟨3, 4, 5, 600000⟩, none⟩ "docweave" 30 "so it goes" =
    "2024-01-02 03:04:05 - docweave - WARNING - so it goes\n" := by decide +kernel

def bytesOf (text : String) : List UInt8 :=
  text.toUTF8.toList

/-- The loggers that names lead to: all are called after the root, and a name that is not so already
comes below it. -/
inductive IsLogger : Option String → String → Prop
  | root : IsLogger none "docweave"
  | own {name : String} (starts : "docweave".toList <+: name.toList) : IsLogger (some name) name
  | below {name : String} (apart : ¬"docweave".toList <+: name.toList) :
      IsLogger (some name) ("docweave" ++ "." ++ name)

theorem IsLogger.unique {name : Option String} {a b : String} (first : IsLogger name a)
    (second : IsLogger name b) : a = b := by
  cases first <;> cases second <;> first | rfl | contradiction

def thresholdFor (verbose quiet : Bool) : Int :=
  if quiet then 40 else if verbose then 10 else 30

namespace Desk

inductive Call where
  | setUp (verbose quiet : Bool) (file : Option String)
  | log (now : Moment) (name : Option String) (level : Level) (message : String)

def Call.IsLog : Call → Prop
  | .setUp _ _ _ => False
  | .log _ _ _ _ => True

def call (d : Desk) : Call → Desk
  | .setUp verbose quiet file => (d.setUp verbose quiet file).toOption.getD d
  | .log now name level message => (d.log now ⟨level, loggerNamed name, message⟩).1

def calls (d : Desk) (cs : List Call) : Desk :=
  cs.foldl call d

/-- What comes of a call: a threshold and a file are in force from now on, a set-up is refused, or a
record is made. -/
inductive Event where
  | setUp (threshold : Int) (file : Option (List String))
  | refused
  | logged (now : Moment) (logger : String) (level : Int) (message : String)

/-- A set-up without a file takes effect, and so does one on a file that can be written. -/
inductive Yields (folder : Folder) : Call → Event → Prop
  | console {verbose quiet : Bool} {file : Option String} (unnamed : file = none ∨ file = some "") :
      Yields folder (.setUp verbose quiet file) (.setUp (thresholdFor verbose quiet) none)
  | opened {verbose quiet : Bool} {name : String} {steps : List String} (named : name ≠ "")
      (writable : folder.Writable (folder.location.absolute (.ofString name)) steps) :
      Yields folder (.setUp verbose quiet (some name))
        (.setUp (thresholdFor verbose quiet) (some steps))
  | refused {verbose quiet : Bool} {name : String} (named : name ≠ "")
      (unwritable : ∀ steps, ¬folder.Writable (folder.location.absolute (.ofString name)) steps) :
      Yields folder (.setUp verbose quiet (some name)) .refused
  | logged {now : Moment} {name : Option String} {logger : String} {level : Level}
      {message : String} (named : IsLogger name logger) :
      Yields folder (.log now name level message) (.logged now logger level.number message)

/-- What comes of calls one after the other, each in the folder that those before it leave. -/
inductive Course : Desk → List Call → List Event → Prop
  | nil (d : Desk) : Course d [] []
  | cons {d : Desk} {c : Call} {event : Event} {rest : List Call} {later : List Event}
      (first : Yields d.folder c event) (after : Course (d.call c) rest later) :
      Course d (c :: rest) (event :: later)

theorem Yields.unique {folder : Folder} {c : Call} {a b : Event} (first : Yields folder c a)
    (second : Yields folder c b) : a = b := by
  cases first with
  | console unnamed =>
    cases second with
    | console => rfl
    | opened named => simp [named] at unnamed
    | refused named => simp [named] at unnamed
  | opened named writable =>
    cases second with
    | console unnamed => simp [named] at unnamed
    | opened _ other => rw [Option.some.inj (writable.inner.symm.trans other.inner)]
    | refused _ unwritable => exact absurd writable (unwritable _)
  | refused named unwritable =>
    cases second with
    | console unnamed => simp [named] at unnamed
    | opened _ writable => exact absurd writable (unwritable _)
    | refused => rfl
  | logged named =>
    cases second with
    | logged other => rw [named.unique other]

/-- The calls and the folder leave no choice as to what comes of them. -/
theorem Course.unique {d : Desk} {cs : List Call} {a b : List Event} (first : Course d cs a)
    (second : Course d cs b) : a = b := by
  induction first generalizing b with
  | nil d =>
    cases second
    rfl
  | cons yields after ih =>
    cases second with
    | cons other later => rw [yields.unique other, ih later]

/-- The threshold and the file of the most recent set-up. Before the first one only warnings matter,
and there is no file. -/
def latest (history : List Event) : Int × Option (List String) :=
  (history.reverse.findSome? fun
    | .setUp threshold file => some (threshold, file)
    | _ => none).getD (30, none)

def IsDue (steps : List String) (history : List Event) (level : Int) : Prop :=
  (latest history).2 = some steps ∧ (latest history).1 ≤ level

instance (steps : List String) (history : List Event) (level : Int) :
    Decidable (IsDue steps history level) :=
  inferInstanceAs (Decidable (_ ∧ _))

/-- The lines that go into a file in the course of events, after those in `history`. -/
def due (steps : List String) (history : List Event) : List Event → List String
  | [] => []
  | .logged now logger level message :: rest =>
    (if IsDue steps history level then [lineOf now logger level message] else [])
      ++ due steps (history ++ [.logged now logger level message]) rest
  | event :: rest => due steps (history ++ [event]) rest

theorem latest_setUp (history : List Event) (threshold : Int) (file : Option (List String)) :
    latest (history ++ [.setUp threshold file]) = (threshold, file) := by
  simp [latest]

theorem latest_refused (history : List Event) :
    latest (history ++ [.refused]) = latest history := by
  simp [latest]

theorem latest_logged (history : List Event) (now : Moment) (logger : String) (level : Int)
    (message : String) :
    latest (history ++ [.logged now logger level message]) = latest history := by
  simp [latest]

inductive Step (d : Desk) : Event → Desk → Prop
  | refused : Step d .refused d
  | console (level : Level) : Step d (.setUp level.number none) { d with level, file := none }
  | opened (level : Level) (steps : List String) :
      Step d (.setUp level.number (some steps)) ⟨level, some steps, d.folder.append steps []⟩
  | unheeded {now : Moment} {logger message : String} {level : Int}
      (low : ¬d.level.number ≤ level) : Step d (.logged now logger level message) d
  | unwritten {now : Moment} {logger message : String} {level : Int} (none : d.file = none) :
      Step d (.logged now logger level message) d
  | written {now : Moment} {logger message : String} {level : Int} {steps : List String}
      (high : d.level.number ≤ level) (current : d.file = some steps) :
      Step d (.logged now logger level message)
        ⟨d.level, some steps, d.folder.append steps (bytesOf (lineOf now logger level message))⟩

def InForce (d : Desk) (history : List Event) : Prop :=
  (d.level.number, d.file) = latest history

def Grounded (d : Desk) : Prop :=
  ∀ steps, d.file = some steps → d.folder.HasFile steps

section Step

variable {d next : Desk} {event : Event} {history : List Event}

theorem InForce.step (now : d.InForce history) (step : Step d event next) :
    next.InForce (history ++ [event]) := by
  unfold InForce at now ⊢
  cases step with
  | refused => rw [latest_refused, now]
  | console level => rw [latest_setUp]
  | opened level steps => rw [latest_setUp]
  | unheeded low => rw [latest_logged, now]
  | unwritten none => rw [latest_logged, now]
  | written high current => rw [latest_logged, ← now, current]

theorem Grounded.step (grounded : d.Grounded) (step : Step d event next) :
    next.Grounded ∧ ∀ steps, next.folder.HasFile steps ↔
      d.folder.HasFile steps ∨ ∃ threshold, event = .setUp threshold (some steps) := by
  cases step with
  | refused => exact ⟨grounded, by simp⟩
  | console level => exact ⟨nofun, by simp⟩
  | opened level opened =>
    have files (steps : List String) : (d.folder.append opened []).HasFile steps ↔
        d.folder.HasFile steps ∨ steps = opened :=
      Folder.hasFile_append d.folder opened steps []
    refine ⟨?_, ?_⟩
    · rintro steps ⟨⟩
      exact (files opened).mpr (.inr rfl)
    · simp [files, eq_comm]
  | unheeded low => exact ⟨grounded, by simp⟩
  | unwritten none => exact ⟨grounded, by simp⟩
  | @written now logger message level opened high current =>
    have files (steps : List String) :
        (d.folder.append opened (bytesOf (lineOf now logger level message))).HasFile steps ↔
          d.folder.HasFile steps := by
      rw [Folder.hasFile_append, or_iff_left_iff_imp]
      rintro rfl
      exact grounded steps current
    refine ⟨?_, ?_⟩
    · rintro steps ⟨⟩
      exact (files opened).mpr (grounded opened current)
    · simp [files]

end Step

/-- How logging goes on from a folder before anything is set up, when `events` come of the calls. -/
structure Followed (folder : Folder) (cs : List Call) (events : List Event) : Prop where
  content : ∀ steps,
    (calls { folder } cs).folder.content steps =
      folder.content steps ++ (due steps [] events).flatMap bytesOf
  files : ∀ steps, (calls { folder } cs).folder.HasFile steps ↔
    folder.HasFile steps ∨ ∃ threshold, .setUp threshold (some steps) ∈ events
  through : ∀ now r, ((calls { folder } cs).log now r).2 =
    if (latest events).1 ≤ r.level.number then [r] else []
  early : (∀ c ∈ cs, c.IsLog) →
    (calls { folder } cs).folder = folder ∧ (calls { folder } cs).level.number = 30

section Sample

end Sample

end Desk

end Log

end Apidoc
