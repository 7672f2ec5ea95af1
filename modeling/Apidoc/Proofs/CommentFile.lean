import Apidoc.CommentFile
import Apidoc.Proofs.Ordered
import Apidoc.Proofs.Xml.Fragment
import Apidoc.Proofs.Xml.Opening

/-!
A comment is the same whether its text is read alone or inside a file: a fragment that is accepted
alone can be put into the file between the tags of its member, and nothing in it reaches beyond
them.
-/
namespace Apidoc

namespace Xml

theorem Content.elements_reverseOnto (c d : Content) :
    (c.reverseOnto d).elements = c.elements.reverse ++ d.elements := by
  induction c generalizing d with
  | empty => rfl
  | char c next ih => exact ih _
  | element tag attributes inner next _ ih =>
    rw [reverseOnto, ih, elements, elements, List.reverse_cons, List.append_assoc]
    rfl

end Xml

namespace CommentFile

open Xml (Attribute Content Element Frame Name State ReadsTo)

def memberText (id fragment : String) : List Char :=
  "<member name=\"".toList ++ Xml.escapeValue id.toList ++ "\">".toList ++ fragment.toList ++
    "</member>".toList

def textOf (pairs : List (String × String)) : List Char :=
  "<doc><members>".toList ++ pairs.flatMap (fun p => memberText p.1 p.2) ++
    "</members></doc>".toList

def fragmentContent (fragment : String) : Content :=
  match Xml.parseDocument (Comment.wrap fragment.toList) with
  | .ok element => element.content
  | .error _ => .empty

def memberElement (id : String) (content : Content) : Element :=
  ⟨.plain "member", [⟨.plain "name", id.toList⟩], content⟩

def membersOpen (content : Content) : List Frame :=
  [⟨"members".toList, .plain "members", [], .outermost, content⟩,
    ⟨"doc".toList, .plain "doc", [], .outermost, .empty⟩]

def memberFrame (id : String) (content : Content) : Frame :=
  ⟨"member".toList, .plain "member", [⟨.plain "name", id.toList⟩], .outermost, content⟩

theorem memberLabel : Xml.IsLabel "member".toList :=
  Or.inl rfl

variable {id fragment : String}

theorem memberText_eq (id fragment : String) :
    memberText id fragment = '<' :: "member".toList ++
      Xml.attributesMarkup [("name".toList, id.toList)] ++ ['>'] ++ fragment.toList ++
        ("</".toList ++ "member".toList ++ ['>']) := by
  have front : "<member name=\"".toList =
      '<' :: "member".toList ++ (' ' :: "name".toList ++ "=\"".toList) := rfl
  have middle : "\">".toList = ['"'] ++ ['>'] := rfl
  have back : "</member>".toList = "</".toList ++ "member".toList ++ ['>'] := rfl
  unfold memberText
  rw [front, middle, back, Xml.attributesMarkup]
  simp only [List.flatMap_cons, List.flatMap_nil, List.append_assoc, List.cons_append,
    List.append_nil, List.nil_append]

theorem resolve_memberTag {raws : List Xml.RawAttribute}
    (spell : List.Forall₂ Xml.Tag.Spells raws [("name".toList, id.toList)]) :
    Xml.Opening.resolve .blank [] .outermost "member".toList raws =
      .ok ⟨.plain "member", [⟨.plain "name", id.toList⟩], .outermost⟩ := by
  have added : Xml.TagSurvey.addAll ⟨[], .outermost, []⟩ [("name".toList, id.toList)] =
      .ok ⟨["name".toList], .outermost, [("name".toList, id.toList)]⟩ := rfl
  exact Xml.resolve_spelled spell (by simp) added rfl rfl

theorem run_memberTag (legal : ∀ c ∈ id.toList, Xml.isLegal c = true) {frame : Frame}
    (same : frame.scope = .outermost) (rest : List Frame) :
    (State.between (frame :: rest)).run .blank ('<' :: "member".toList ++
        Xml.attributesMarkup [("name".toList, id.toList)] ++ ['>']) =
      some (.between (memberFrame id .empty :: frame :: rest)) := by
  have writable : ∀ a ∈ [("name".toList, id.toList)], Xml.Tag.Writable a := by
    intro a there
    rw [List.mem_singleton.mp there]
    exact ⟨Or.inl rfl, legal⟩
  have resolved : ∀ raws, List.Forall₂ Xml.Tag.Spells raws [("name".toList, id.toList)] →
      Xml.Opening.resolve .blank [] (Xml.scopeOf (frame :: rest)) "member".toList raws =
        .ok ⟨.plain "member", [⟨.plain "name", id.toList⟩], .outermost⟩ := by
    intro raws spell
    rw [Xml.scopeOf, same]
    exact resolve_memberTag spell
  exact State.run_startTag memberLabel writable resolved 0 false 0

theorem run_memberText (legal : ∀ c ∈ id.toList, Xml.isLegal c = true) {content : Content}
    (reads : ReadsTo fragment.toList content) {frame : Frame} (same : frame.scope = .outermost)
    (rest : List Frame) :
    (State.between (frame :: rest)).run .blank (memberText id fragment) =
      some (.between (Xml.addElement (memberElement id content.reverse) (frame :: rest))) := by
  have opened := run_memberTag legal same rest
  obtain ⟨brackets, afterReturn, length, inner⟩ :=
    @ReadsTo.inside _ _ reads (memberFrame id .empty) rfl (frame :: rest)
  have inner : (State.between (memberFrame id .empty :: frame :: rest)).run .blank
      fragment.toList = some ⟨memberFrame id (content ++ Content.empty) :: frame :: rest,
        .text brackets afterReturn, length⟩ := inner
  rw [Content.append_empty] at inner
  have closed : State.run .blank ⟨memberFrame id content :: frame :: rest,
      .text brackets afterReturn, length⟩ ("</".toList ++ "member".toList ++ ['>']) =
        some (.between (Xml.addElement (memberFrame id content).close (frame :: rest))) :=
    @State.run_endTag .blank (memberFrame id content) (frame :: rest) memberLabel (by simp)
      brackets afterReturn length
  rw [memberText_eq]
  exact State.run_trans (State.run_trans opened inner) closed

theorem fragmentContent_of_readsTo {content : Content} (reads : ReadsTo fragment.toList content) :
    fragmentContent fragment = content.reverse := by
  rw [fragmentContent, Xml.parseDocument_wrap.mpr ⟨content, reads, rfl⟩]

def membersOnto (pairs : List (String × String)) (content : Content) : Content :=
  pairs.foldl (fun c p => (memberElement p.1 (fragmentContent p.2)).onto c) content

def rootOf (pairs : List (String × String)) : Element :=
  ⟨.plain "doc", [], .element (.plain "members") [] (membersOnto pairs .empty).reverse .empty⟩

theorem run_members {pairs : List (String × String)}
    (legal : ∀ p ∈ pairs, ∀ c ∈ p.1.toList, Xml.isLegal c = true)
    (reads : ∀ p ∈ pairs, ∃ content, ReadsTo p.2.toList content) (content : Content) :
    (State.between (membersOpen content)).run .blank (pairs.flatMap fun p => memberText p.1 p.2) =
      some (.between (membersOpen (membersOnto pairs content))) := by
  induction pairs generalizing content with
  | nil => rfl
  | cons p pairs ih =>
    obtain ⟨inner, read⟩ := reads p List.mem_cons_self
    have first : (State.between (membersOpen content)).run .blank (memberText p.1 p.2) =
        some (.between (membersOpen ((memberElement p.1 inner.reverse).onto content))) :=
      run_memberText (legal p List.mem_cons_self) read rfl _
    have others := ih (fun q there => legal q (List.mem_cons_of_mem p there))
      (fun q there => reads q (List.mem_cons_of_mem p there))
      ((memberElement p.1 (fragmentContent p.2)).onto content)
    rw [← fragmentContent_of_readsTo read] at first
    rw [List.flatMap_cons]
    exact State.run_trans first others

theorem elements_membersOnto (pairs : List (String × String)) (content : Content) :
    (membersOnto pairs content).elements =
      (pairs.map fun p => memberElement p.1 (fragmentContent p.2)).reverse ++ content.elements := by
  induction pairs generalizing content with
  | nil => rfl
  | cons p pairs ih =>
    change (membersOnto pairs ((memberElement p.1 (fragmentContent p.2)).onto content)).elements = _
    rw [ih, List.map_cons, List.reverse_cons, List.append_assoc]
    rfl

theorem parseDocument_textOf {pairs : List (String × String)}
    (legal : ∀ p ∈ pairs, ∀ c ∈ p.1.toList, Xml.isLegal c = true)
    (reads : ∀ p ∈ pairs, ∃ content, ReadsTo p.2.toList content) :
    Xml.parseDocument (textOf pairs) = .ok (rootOf pairs) := by
  have opened : State.initial.run .blank "<doc><members>".toList =
      some (.between (membersOpen .empty)) := rfl
  have closed : ∀ content, Xml.readRoot .blank (.between (membersOpen content))
      "</members></doc>".toList =
        .ok (⟨.plain "doc", [], .element (.plain "members") [] content.reverse .empty⟩, []) :=
    fun _ => rfl
  refine (Xml.parseDocument_root (c := 'd') rfl _).mpr ⟨[], ?_, Xml.checkEpilog.eq_1⟩
  have inner := State.run_trans opened (run_members legal reads .empty)
  exact (Xml.readRoot_run inner _).trans (closed _)

theorem collect_comments (source : String) (held : Ordered String Comment)
    (members : List Element) :
    (collect source held members).1 =
      held.merge (members.filterMap fun m => (idOf m).map fun id => (id, ⟨m⟩)) := by
  induction members generalizing held with
  | nil => rfl
  | cons member rest ih =>
    rw [collect, List.filterMap_cons]
    split
    · next nameless =>
      rw [nameless]
      exact ih held
    · next id named =>
      rw [named]
      exact ih (held.insert id ⟨member⟩)

theorem attribute?_memberElement (id : String) (content : Content) :
    (memberElement id content).attribute? "name" = some id := by
  have spelled : ((Name.plain "name").spelled == "name") = true := by decide
  simp only [memberElement, Element.attribute?, List.find?_cons, spelled, Option.map_some,
    String.ofList_toList]

theorem idOf_memberElement (named : id ≠ "") (content : Content) :
    idOf (memberElement id content) = some id := by
  rw [idOf, attribute?_memberElement]
  simp [named]

/-- The members of a file are the elements that its pairs give, in order. -/
theorem atPath_members (pairs : List (String × String)) :
    atPath (rootOf pairs) "members" "member" =
      pairs.map fun p => memberElement p.1 (fragmentContent p.2) := by
  have elements : (membersOnto pairs .empty).reverse.elements =
      pairs.map fun p => memberElement p.1 (fragmentContent p.2) := by
    rw [Content.reverse, Content.elements_reverseOnto, elements_membersOnto, Content.elements]
    simp
  have all : (pairs.map fun p => memberElement p.1 (fragmentContent p.2)).filter
      (·.tag = .plain "member") = pairs.map fun p => memberElement p.1 (fragmentContent p.2) := by
    rw [List.filter_eq_self]
    intro element there
    obtain ⟨p, -, rfl⟩ := List.mem_map.mp there
    exact decide_eq_true rfl
  change [(⟨.plain "members", [], (membersOnto pairs .empty).reverse⟩ : Element)].flatMap
    (·.childrenNamed (.plain "member")) = _
  rw [List.flatMap_singleton, Element.childrenNamed, Element.children, elements, all]

theorem comments_textOf (source : String) {pairs : List (String × String)}
    (named : ∀ p ∈ pairs, p.1 ≠ "") :
    (ofRoot source (rootOf pairs)).1.comments =
      .ofList (pairs.map fun p => (p.1, ⟨memberElement p.1 (fragmentContent p.2)⟩)) := by
  change (collect source [] _).1 = _
  rw [atPath_members, collect_comments, Ordered.ofList, List.filterMap_map]
  congr 1
  rw [← List.filterMap_eq_map]
  refine List.filterMap_congr ?_
  intro p there
  simp only [Function.comp_apply, idOf_memberElement (named p there), Option.map_some]

/-- The comments of a file are those of its fragments read alone. Of several members with one id the
last one counts, at the place of the first. -/
theorem parse_textOf (pairs : List (String × String)) (source origin : String)
    (named : ∀ p ∈ pairs, p.1 ≠ "")
    (legal : ∀ p ∈ pairs, ∀ c ∈ p.1.toList, Xml.isLegal c = true)
    (accepted : ∀ p ∈ pairs, ∃ alone, Comment.ofFragment p.2 origin = .ok alone) :
    ∃ file notices, parse (String.ofList (textOf pairs)) source = .ok (file, notices) ∧
      file.comments.keys = (pairs.map (·.1)).eraseDups ∧
      ∀ before id fragment after, pairs = before ++ (id, fragment) :: after →
        id ∉ after.map (·.1) →
        ∃ comment alone, file.comments.find? id = some comment ∧
          Comment.ofFragment fragment origin = .ok alone ∧
          comment.memberId? = some id ∧ comment.allPassages = alone.allPassages ∧
          comment.element.content = alone.element.content := by
  have reads : ∀ p ∈ pairs, ∃ content, ReadsTo p.2.toList content := by
    intro p there
    obtain ⟨alone, read⟩ := accepted p there
    obtain ⟨content, reads, -⟩ := Comment.ofFragment_eq_ok_iff.mp read
    exact ⟨content, reads⟩
  have parsed : parse (String.ofList (textOf pairs)) source =
      .ok (ofRoot source (rootOf pairs)) := by
    unfold parse
    rw [String.toList_ofList, parseDocument_textOf legal reads]
    rfl
  have comments := comments_textOf source named
  refine ⟨(ofRoot source (rootOf pairs)).1, (ofRoot source (rootOf pairs)).2, parsed, ?_, ?_⟩
  · rw [comments, Ordered.keys_ofList, Ordered.keys, List.map_map]
    rfl
  · rintro before id fragment after rfl last
    obtain ⟨alone, read⟩ := accepted (id, fragment) (by simp)
    obtain ⟨content, whole, rfl⟩ := Comment.ofFragment_eq_ok_iff.mp read
    refine ⟨⟨memberElement id content.reverse⟩, _, ?_, read, ?_, rfl, rfl⟩
    · rw [comments, List.map_append, List.map_cons, fragmentContent_of_readsTo whole]
      refine Ordered.find?_ofList_last ?_ _ _
      rw [Ordered.keys, List.map_map]
      exact last
    · exact attribute?_memberElement id content.reverse

def samplePairs : List (String × String) :=
  [("T:A&\"B\"", "<!-- </member> --><summary>old</summary>"),
   ("M:A.F", "<a:b xmlns:a=\"urn:x\"/>\r\n"),
   ("T:A&\"B\"", "<![CDATA[</member>]]><summary>new</summary>")]

theorem parse_textOf_sample :
    ((∀ p ∈ samplePairs, p.1 ≠ "") ∧
      (∀ p ∈ samplePairs, ∀ c ∈ p.1.toList, Xml.isLegal c = true) ∧
      ∀ p ∈ samplePairs, (Comment.ofFragment p.2 Comment.fragmentSource).isOk = true) ∧
    ∃ file notices, parse (String.ofList (textOf samplePairs)) textSource = .ok (file, notices) ∧
      file.comments.keys = ["T:A&\"B\"", "M:A.F"] ∧
      ∃ comment alone, file.comments.find? "T:A&\"B\"" = some comment ∧
        Comment.ofFragment "<![CDATA[</member>]]><summary>new</summary>" Comment.fragmentSource =
          .ok alone ∧
        comment.memberId? = some "T:A&\"B\"" ∧ comment.allPassages = alone.allPassages ∧
        comment.element.content = alone.element.content := by
  have named : ∀ p ∈ samplePairs, p.1 ≠ "" := by decide
  have whole : ∀ p ∈ samplePairs, p.1.toList.all Xml.isLegal = true := by decide +kernel
  have legal : ∀ p ∈ samplePairs, ∀ c ∈ p.1.toList, Xml.isLegal c = true :=
    fun p there => List.all_eq_true.mp (whole p there)
  have accepted : ∀ p ∈ samplePairs,
      (Comment.ofFragment p.2 Comment.fragmentSource).isOk = true := by decide +kernel
  refine ⟨⟨named, legal, accepted⟩, ?_⟩
  have alone : ∀ p ∈ samplePairs, ∃ alone,
      Comment.ofFragment p.2 Comment.fragmentSource = .ok alone := by
    intro p there
    have ok := accepted p there
    cases read : Comment.ofFragment p.2 Comment.fragmentSource with
    | error problem =>
      rw [read] at ok
      cases ok
    | ok comment => exact ⟨comment, rfl⟩
  obtain ⟨file, notices, parsed, keys, trees⟩ :=
    parse_textOf samplePairs textSource Comment.fragmentSource named legal alone
  exact ⟨file, notices, parsed, keys.trans (by decide),
    trees (samplePairs.take 2) _ _ [] rfl (by simp)⟩

end CommentFile

end Apidoc
