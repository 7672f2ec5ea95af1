import Apidoc.Proofs.Catalog.Build
import Apidoc.Proofs.Command.Verbosity
import Apidoc.Proofs.Console.Verbatim

/-!
What is listed of a catalog. Ids and excerpts are escaped before they are read as markup, so every
row can be shown. The title is not: what it says acts as markup, and the list is only as good as
the title can be read.
-/
namespace Apidoc.Command

open Console Settings

section Rows

theorem exists_mapM_ok {ε α β : Type} {f : α → Except ε β} {R : α → β → Prop}
    (each : ∀ a, ∃ b, f a = .ok b ∧ R a b) (list : List α) :
    ∃ results, list.mapM f = .ok results ∧ List.Forall₂ R list results := by
  induction list with
  | nil => exact ⟨[], rfl, .nil⟩
  | cons a rest ih =>
    obtain ⟨b, first, related⟩ := each a
    obtain ⟨results, later, allRelated⟩ := ih
    refine ⟨b :: results, ?_, .cons related allRelated⟩
    rw [List.mapM_cons, first, later]
    rfl

variable (pictographs : Pictographs)

def IsRow (entry : String × Entity) (row : List (List Char)) : Prop :=
  ∃ id summary, plain pictographs (escape entry.1) = .ok id ∧
    plain pictographs (escape (excerpt (entry.2.description.getD "") Excerpt.defaultWidth)) =
      .ok summary ∧
    row = [entry.2.kind.word.toList, id, summary]

theorem plain_word (kind : Kind) : plain pictographs kind.word = .ok kind.word.toList := by
  cases kind <;> rfl

theorem exists_row (entry : String × Entity) :
    ∃ row, (rowMarkup entry.1 entry.2).mapM (plain pictographs) = .ok row ∧
      IsRow pictographs entry row := by
  obtain ⟨id, named⟩ := exists_plain_escape pictographs entry.1
  obtain ⟨summary, described⟩ := exists_plain_escape pictographs
    (excerpt (entry.2.description.getD "") Excerpt.defaultWidth)
  refine ⟨_, ?_, id, summary, named, described, rfl⟩
  simp only [rowMarkup, List.mapM_cons, List.mapM_nil, plain_word, named, described]
  rfl

end Rows

section Title

def counted (n : Nat) : List Char :=
  s!" ({n} entities)".toList

theorem isInert_of_isDigit {c : Char} (digit : c.isDigit = true) : isInert c = true := by
  have range : 0x30 ≤ c.toNat ∧ c.toNat ≤ 0x39 := Char.isDigit_iff_toNat.mp digit
  have apart : ∀ d : Char, d.isDigit = false → c ≠ d := by
    rintro d other rfl
    rw [other] at digit
    cases digit
  have still : isControl c = false := by
    simp only [isControl, List.contains_eq_mem, List.mem_cons, List.not_mem_nil, or_false,
      decide_eq_false_iff_not]
    omega
  simp [isInert, still, apart '[' rfl, apart ']' rfl, apart '\\' rfl, apart ':' rfl]

theorem isInert_counted (n : Nat) : ∀ c ∈ counted n, isInert c = true := by
  intro c there
  have written : counted n = " (".toList ++ Nat.toDigits 10 n ++ " entities)".toList := by
    rw [← String.toList_ofList (l := Nat.toDigits 10 n), ← Nat.toString_eq_ofList_toDigits]
    simp [counted, toString]
  have words : (" (".toList ++ " entities)".toList).all isInert = true := by decide
  rw [List.all_eq_true] at words
  rw [written, List.mem_append, List.mem_append] at there
  rcases there with (before | digit) | behind
  · exact words c (List.mem_append_left _ before)
  · exact isInert_of_isDigit (Nat.isDigit_of_mem_toDigits (by decide) (by decide) digit)
  · exact words c (List.mem_append_right _ behind)

/-- Whether a table of entities can be shown depends on its title alone. -/
theorem exists_tableOf (pictographs : Pictographs) (title : String)
    (entities : Ordered String Entity) :
    ∃ rows, List.Forall₂ (IsRow pictographs) entities rows ∧
      tableOf pictographs title entities =
        (plain pictographs title).map fun shown =>
          ⟨shown ++ counted rows.length, columns, rows⟩ := by
  obtain ⟨rows, read, areRows⟩ := exists_mapM_ok (exists_row pictographs) entities
  refine ⟨rows, areRows, ?_⟩
  have heading : plain pictographs s!"{title} ({entities.length} entities)" =
      (plain pictographs title).map (· ++ counted rows.length) := by
    refine plain_append pictographs (isInert_counted _) ?_
    rw [← areRows.length_eq]
    simp [counted, toString]
  rw [tableOf, read, heading]
  cases plain pictographs title <;> rfl

end Title

def selected (kind : Option String) (catalog : Catalog) : Ordered String Entity :=
  catalog.entities.filter fun (_, e) => kind.all (e.kind.word == ·)

theorem answer_list (host : Host) (request : Request) (kind : Option String) (start : Outcome)
    (catalog : Catalog) :
    (Command.list request kind).answer host start catalog =
      start.print ((tableOf host.pictographs (titleOf catalog request.file)
        (selected kind catalog)).map (·.lines host.width)) := by
  cases kind with
  | none =>
    have all : selected none catalog = catalog.entities := List.filter_eq_self.mpr fun _ _ => rfl
    rw [all]
    rfl
  | some word => rfl

def Prints (host : Host) (o : Outcome) (title : List Char) (entities : Ordered String Entity) :
    Prop :=
  ∃ rows, List.Forall₂ (IsRow host.pictographs) entities rows ∧ o.exit = success ∧
    o.failure = none ∧
    o.output = printed (Table.lines ⟨title ++ counted rows.length, columns, rows⟩ host.width)

structure Lists (host : Host) (o : Outcome) (title : String) (entities : Ordered String Entity) :
    Prop where
  shown : ∀ s, plain host.pictographs title = .ok s → Prints host o s entities
  broken : ∀ fault, plain host.pictographs title = .error fault →
    o.exit = notFound ∧ o.output = [] ∧ o.failure = some (.markup fault)
  verbatim : plain host.pictographs title = .ok title.toList ↔
    Verbatim host.pictographs title.toList

theorem print_lists (host : Host) {start : Outcome} (fresh : start.seen = (success, [], none))
    (title : String) (entities : Ordered String Entity) :
    Lists host (start.print ((tableOf host.pictographs title entities).map (·.lines host.width)))
      title entities := by
  obtain ⟨rows, areRows, table⟩ := exists_tableOf host.pictographs title entities
  simp only [Outcome.seen, Prod.mk.injEq] at fresh
  obtain ⟨exit, output, failure⟩ := fresh
  rw [table]
  refine ⟨?_, ?_, plain_eq_self_iff host.pictographs title⟩
  · intro s read
    refine ⟨rows, areRows, ?_⟩
    simp only [read, Except.map, Outcome.print, exit, output, failure, List.nil_append, and_self]
  · intro fault unread
    simp only [unread, Except.map, Outcome.print, Outcome.fail, and_self]

variable {around : Surroundings} {request : Request} {kind : Option String} {settings : Settings}
  {catalog : Catalog}

theorem titleOf_catalogFor {decoders : Encoding.Decoders} {path : Path}
    (built : (catalogFor around decoders settings path).2 = .ok catalog) (file : Path) :
    ∃ comments notices,
      CommentFile.read decoders around.find path settings.encoding = .ok (comments, notices) ∧
      titleOf catalog file = (comments.assembly.filter (!·.isEmpty)).getD file.name := by
  unfold catalogFor at built
  split at built
  · cases built
  · cases built
  · cases built
  · next comments notices read =>
    refine ⟨comments, notices, read, ?_⟩
    split at built
    · next more found there =>
      cases built
      obtain ⟨members, spaces, made⟩ := Catalog.build_ok there
      rw [titleOf, made.assembly]
    · cases built
    · cases built

/-- Every catalog is listed under the assembly that its file names, or the name of the file when
there is none; only this title can change what is shown or break the list off. -/
theorem catalog_listed (host : Host) (known : (Command.list request kind).ReadsSettings)
    (loaded : settingsFor around request = .ok settings)
    (built : (catalogFor around host.decoders settings request.file).2 = .ok catalog) :
    ∃ comments notices,
      CommentFile.read host.decoders around.find request.file settings.encoding =
        .ok (comments, notices) ∧
      Lists host ((Command.list request kind).run around host)
        ((comments.assembly.filter (!·.isEmpty)).getD request.file.name)
        (selected kind catalog) := by
  obtain ⟨comments, notices, read, title⟩ := titleOf_catalogFor built request.file
  refine ⟨comments, notices, read, ?_⟩
  rw [known.run_loaded loaded, Command.request, built, settle, answer_list, title]
  exact print_lists host (seen_started around host.decoders settings request.file) _ _

section Samples

def holding (text : String) : Surroundings where
  find path := if path = ⟨"", ["a.xml"]⟩ then .file text.toUTF8.toList else .absent .missing
  current := ⟨"/", ["work"]⟩
  account := ⟨"/", ["home"]⟩
  environment _ := none

def bareRequest : Request :=
  ⟨⟨"", ["a.xml"]⟩, none, false, false⟩

theorem settingsFor_holding (text : String) :
    settingsFor (holding text) bareRequest = .ok {} := by
  have read : Settings.Sources.Read ⟨[], [], [], fun _ => none⟩ (holding text) none :=
    ⟨⟨_, rfl, rfl⟩, rfl, rfl, fun field => rfl⟩
  rw [settingsFor, bareRequest, read.load_eq, Settings.check_eq, if_pos (by decide +kernel)]
  rfl

def namedText : String :=
  "<doc><assembly><name>Lib</name></assembly><members>" ++
    "<member name=\"T:A\"/><member name=\"M:A.F\"/></members></doc>"

theorem catalog_listed_named :
    ∃ catalog,
      (catalogFor (holding namedText) sampleHost.decoders {} bareRequest.file).2 = .ok catalog ∧
      (selected (some "type") catalog).keys = ["T:A"] ∧
      Prints sampleHost
        ((Command.list bareRequest (some "type")).run (holding namedText) sampleHost)
        "Lib".toList (selected (some "type") catalog) := by
  have found :
      (catalogFor (holding namedText) sampleHost.decoders {} bareRequest.file).2.toOption.map
        (fun catalog =>
          (titleOf catalog bareRequest.file, (selected (some "type") catalog).keys)) =
        some ("Lib", ["T:A"]) := by
    decide +kernel
  cases built : (catalogFor (holding namedText) sampleHost.decoders {} bareRequest.file).2 with
  | error reason =>
    rw [built] at found
    cases found
  | ok catalog =>
    have known : (Command.list bareRequest (some "type")).ReadsSettings := by
      rintro word same
      cases same
      decide
    obtain ⟨comments, notices, read, lists⟩ :=
      catalog_listed sampleHost known (settingsFor_holding namedText) built
    obtain ⟨others, more, readAgain, title⟩ := titleOf_catalogFor built bareRequest.file
    cases read.symm.trans readAgain
    rw [built] at found
    simp only [Except.toOption, Option.map_some, Option.some.injEq, Prod.mk.injEq] at found
    rw [← title, found.1] at lists
    exact ⟨catalog, rfl, found.2, lists.shown _ rfl⟩

def titledText (assembly : String) : String :=
  "<doc><assembly><name>" ++ assembly ++ "</name></assembly></doc>"

/-- A name that closes a tag breaks the list off, and one that opens a tag is not shown. -/
theorem tagged_titles :
    ((Command.list bareRequest none).run (holding (titledText "[/x]")) sampleHost).exit =
        notFound ∧
      ((Command.list bareRequest none).run (holding (titledText "[x]")) sampleHost).output =
        printed (Table.lines ⟨counted 0, columns, []⟩ sampleHost.width) := by
  decide +kernel

end Samples

end Apidoc.Command
