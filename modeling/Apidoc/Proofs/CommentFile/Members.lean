import Apidoc.Proofs.CommentFile

/-!
Which members a file has. Its member elements are taken in document order, through all sections, and
each of them either gives a new id or a warning: that it has no name, or that its name occurred
before. Of several elements with one id the last one counts.
-/
namespace Apidoc

/-- What stands before the first element is text, and it ends there. -/
theorem Xml.Content.exists_after_leadingText (content : Content) :
    ∃ after, content = content.leadingText.foldr .char after ∧ ∀ c next, after ≠ .char c next := by
  induction content with
  | empty => exact ⟨.empty, rfl, nofun⟩
  | element tag attributes inner next => exact ⟨.element tag attributes inner next, rfl, nofun⟩
  | char c next ih =>
    obtain ⟨after, same, ended⟩ := ih
    refine ⟨after, ?_, ended⟩
    rw [leadingText, List.foldr_cons, ← same]

namespace CommentFile

open Xml (Element)

variable {source : String} {members : List Element}

def warning? (source : String) (earlier : List Element) (member : Element) : Option Notice :=
  match idOf member with
  | none => some (.nameless source)
  | some id => if id ∈ earlier.filterMap idOf then some (.duplicate id source) else none

def warnings (source : String) (members : List Element) : List Notice :=
  members.zipIdx.filterMap fun place => warning? source (members.take place.2) place.1

theorem warnings_concat (source : String) (members : List Element) (member : Element) :
    warnings source (members ++ [member]) =
      warnings source members ++ (warning? source members member).toList := by
  unfold warnings
  rw [List.zipIdx_append, List.filterMap_append]
  congr 1
  · apply List.filterMap_congr
    intro place there
    have early : place.2 ≤ members.length := by
      have bound := List.snd_lt_of_mem_zipIdx there
      omega
    rw [List.take_append_of_le_length early]
  · rw [List.zipIdx_singleton, List.filterMap_cons, Nat.zero_add, List.take_left]
    cases warning? source members member <;> rfl

theorem level_of_mem_warnings {notice : Notice} (there : notice ∈ warnings source members) :
    notice.level = .warning := by
  obtain ⟨place, -, warned⟩ := List.mem_filterMap.mp there
  unfold warning? at warned
  split at warned
  · cases warned
    rfl
  · split at warned
    · cases warned
      rfl
    · cases warned

theorem notices_collect_append (source : String) (held : Ordered String Comment)
    (members more : List Element) :
    (collect source held (members ++ more)).2 =
      (collect source held members).2 ++
        (collect source (collect source held members).1 more).2 := by
  induction members generalizing held with
  | nil => rfl
  | cons member rest ih =>
    rw [List.cons_append, collect, collect]
    cases idOf member with
    | none => simp [ih]
    | some id =>
      simp only [ih]
      split <;> simp

theorem keys_collect (source : String) (members : List Element) :
    (collect source [] members).1.keys = (members.filterMap idOf).eraseDups := by
  have ids : Ordered.keys (members.filterMap fun m => (idOf m).map fun id => (id, Comment.mk m)) =
      members.filterMap idOf := by
    unfold Ordered.keys
    rw [List.map_filterMap]
    apply List.filterMap_congr
    intro m _
    cases idOf m <;> rfl
  rw [collect_comments]
  change (Ordered.ofList _).keys = _
  rw [Ordered.keys_ofList, ids]

/-- Each element that is not the first with its id, or has none, is warned about when it comes. -/
theorem collect_warnings (source : String) (members : List Element) :
    (collect source [] members).2 = warnings source members := by
  induction members using List.reverseRecOn with
  | nil => rfl
  | append_singleton members member ih =>
    have held := keys_collect source members
    rw [notices_collect_append, warnings_concat, ih, collect, warning?]
    cases idOf member with
    | none => rfl
    | some id =>
      have before : (collect source [] members).1.has id = true ↔ id ∈ members.filterMap idOf := by
        rw [Ordered.has_eq_true_iff, held, List.mem_eraseDups]
      by_cases earlier : id ∈ members.filterMap idOf
      · simp [before, earlier, collect]
      · simp [before, earlier, collect]

/-- An element gives either a new id or a warning. -/
theorem length_members (source : String) (members : List Element) :
    members.length =
      (members.filterMap idOf).eraseDups.length + (warnings source members).length := by
  induction members using List.reverseRecOn with
  | nil => rfl
  | append_singleton members member ih =>
    rw [warnings_concat, List.length_append, List.length_append, List.filterMap_append,
      List.eraseDups_append, List.length_append, ih]
    have one : ((([member].filterMap idOf).removeAll (members.filterMap idOf)).eraseDups).length +
        (warning? source members member).toList.length = 1 := by
      rw [warning?]
      cases named : idOf member with
      | none => simp [named]
      | some id =>
        rw [List.filterMap_cons, named, List.filterMap_nil, List.cons_removeAll]
        by_cases earlier : id ∈ members.filterMap idOf
        · simp only [List.contains_iff_mem.mpr earlier, if_pos earlier]
          rfl
        · simp only [List.contains_eq_mem, decide_eq_false earlier, if_neg earlier]
          rfl
    simp only [List.length_singleton]
    omega

theorem find?_collect {before after : List Element} {member : Element} {id : String}
    (named : idOf member = some id) (last : ∀ later ∈ after, idOf later ≠ some id) :
    (collect source [] (before ++ member :: after)).1.find? id = some ⟨member⟩ := by
  rw [collect_comments, List.filterMap_append, List.filterMap_cons, named]
  apply Ordered.find?_ofList_last
  intro there
  obtain ⟨comment, listed⟩ := Ordered.exists_of_mem_keys there
  obtain ⟨later, behind, given⟩ := List.mem_filterMap.mp listed
  obtain ⟨other, same, pair⟩ := Option.map_eq_some_iff.mp given
  cases pair
  exact last later behind same

def memberElements (root : Element) : List Element :=
  (root.childrenNamed (.plain "members")).flatMap (·.childrenNamed (.plain "member"))

def nameElements (root : Element) : List Element :=
  (root.childrenNamed (.plain "assembly")).flatMap (·.childrenNamed (.plain "name"))

structure Holds (source : String) (root : Element) (file : CommentFile) (notices : List Notice) :
    Prop where
  source_eq : file.source = source
  keys : file.comments.keys = ((memberElements root).filterMap idOf).eraseDups
  last : ∀ before member after id, memberElements root = before ++ member :: after →
    idOf member = some id → (∀ later ∈ after, idOf later ≠ some id) →
    file.comments.find? id = some ⟨member⟩
  noticed : notices = warnings source (memberElements root) ++
    [.read file.comments.length source]
  count : (memberElements root).length =
    file.comments.length + (notices.filter (·.level = .warning)).length
  unnamed : nameElements root = [] → file.assembly = none
  named : ∀ first rest, nameElements root = first :: rest →
    ∃ text after, first.content = text.foldr .char after ∧ (∀ c next, after ≠ .char c next) ∧
      file.assembly = some (String.ofList text)

theorem holds_ofRoot (source : String) (root : Element) :
    Holds source root (ofRoot source root).1 (ofRoot source root).2 := by
  have keys := keys_collect source (memberElements root)
  have said := collect_warnings source (memberElements root)
  have all : (warnings source (memberElements root)).filter (·.level = .warning) =
      warnings source (memberElements root) := by
    rw [List.filter_eq_self]
    intro notice there
    exact decide_eq_true (level_of_mem_warnings there)
  constructor
  · rfl
  · exact keys
  · intro before member after id same named last
    change (collect source [] (memberElements root)).1.find? id = _
    rw [same]
    exact find?_collect named last
  · rw [← said]
    rfl
  · have total := length_members source (memberElements root)
    have size : (ofRoot source root).1.comments.length =
        ((memberElements root).filterMap idOf).eraseDups.length := by
      rw [← keys, Ordered.keys, List.length_map]
      rfl
    change _ = _ + (((collect source [] (memberElements root)).2 ++
      [Notice.read _ _]).filter _).length
    have aside (count : Nat) : [Notice.read count source].filter (·.level = .warning) = [] := rfl
    rw [said, List.filter_append, all, aside, List.append_nil, size]
    exact total
  · intro none
    change (nameElements root).head?.map _ = _
    rw [none]
    rfl
  · intro first rest same
    obtain ⟨after, content, ended⟩ := first.content.exists_after_leadingText
    refine ⟨_, after, content, ended, ?_⟩
    change (nameElements root).head?.map _ = _
    rw [same]
    rfl

/-- Every well-formed file is read, and holds what its member elements give. -/
theorem parse_members (source : String) {text : String} {root : Element}
    (wellFormed : Xml.parseDocument text.toList = .ok root) (isDoc : root.tag = .plain "doc") :
    ∃ file notices, parse text source = .ok (file, notices) ∧ Holds source root file notices := by
  refine ⟨_, _, ?_, holds_ofRoot source root⟩
  unfold parse
  rw [wellFormed]
  exact if_pos isDoc

/-- Two sections with a member that has no name and one that occurs in both, and a second place for
the name of the assembly. -/
def sectionedText : String :=
  "<doc><assembly/><assembly><name>Ac<!-- -->me<b/>x</name></assembly><members>" ++
    "<member name=\"T:A\"><summary/></member><member name=\"\"/></members><members>" ++
    "<member name=\"M:B\"/><member name=\"T:A\"/></members></doc>"

def sectionedRoot : Element :=
  let name : Xml.Content := .char 'A' (.char 'c' (.char 'm' (.char 'e'
    (.element (.plain "b") [] .empty (.char 'x' .empty)))))
  let member (id : String) (content rest : Xml.Content) : Xml.Content :=
    .element (.plain "member") [⟨.plain "name", id.toList⟩] content rest
  let first := member "T:A" (.element (.plain "summary") [] .empty .empty) (member "" .empty .empty)
  let second := member "M:B" .empty (member "T:A" .empty .empty)
  ⟨.plain "doc", [], .element (.plain "assembly") [] .empty
    (.element (.plain "assembly") [] (.element (.plain "name") [] name .empty)
      (.element (.plain "members") [] first (.element (.plain "members") [] second .empty)))⟩

theorem parse_members_sectioned :
    Xml.parseDocument sectionedText.toList = .ok sectionedRoot ∧
      ∃ file notices, parse sectionedText textSource = .ok (file, notices) ∧
        Holds textSource sectionedRoot file notices ∧ file.comments.keys = ["T:A", "M:B"] ∧
        notices = [.nameless textSource, .duplicate "T:A" textSource, .read 2 textSource] := by
  have parsed : Xml.parseDocument sectionedText.toList = .ok sectionedRoot := by
    have root : (Xml.parseDocument sectionedText.toList).toOption = some sectionedRoot := by
      decide +kernel
    cases outcome : Xml.parseDocument sectionedText.toList with
    | error fault => rw [outcome] at root; cases root
    | ok element => rw [outcome] at root; cases root; rfl
  obtain ⟨file, notices, read, holds⟩ := parse_members textSource parsed rfl
  have keys : file.comments.keys = ["T:A", "M:B"] := holds.keys.trans (by decide)
  have size : file.comments.length = 2 := by
    rw [← List.length_map Prod.fst]
    exact congrArg List.length keys
  have said : warnings textSource (memberElements sectionedRoot) =
      [.nameless textSource, .duplicate "T:A" textSource] := by decide
  refine ⟨parsed, file, notices, read, holds, keys, ?_⟩
  rw [holds.noticed, said, size]
  rfl

end CommentFile

end Apidoc
