import Apidoc.Catalog
import Apidoc.Command.Arguments
import Apidoc.CommentFile.Read
import Apidoc.Console.Markup
import Apidoc.Console.Panel
import Apidoc.Console.Table
import Apidoc.Excerpt
import Apidoc.Log.Desk
import Apidoc.Report
import Apidoc.Settings.Load

/-!
The command line: `list` shows a table of the entities that a file documents, and `show` the
documentation of one of them.
-/
namespace Apidoc

structure Request where
  file : Path
  config : Option Path
  verbose : Bool
  quiet : Bool
  deriving DecidableEq, Repr

inductive Command where
  | list (request : Request) (kind : Option String)
  | inspect (request : Request) (id : String)
  deriving DecidableEq, Repr

namespace Command

inductive ArgumentFault where
  | usage
  | path (fault : PathFault) (path : Path)
  deriving DecidableEq, Repr

/-- Refuses a null character in the paths among the words of both commands: the file of settings,
and the file of comments, which is the first word that is no option. -/
def checkPaths (words : Words) : Except ArgumentFault PUnit :=
  let paths := ((words.value? .config).toList ++ words.plain.head?.toList).map Path.ofString
  match paths.find? (·.hasNull) with
  | some path => .error (.path .nullCharacter path)
  | none => .ok ()

def requestOf (words : Words) (file : String) : Request :=
  ⟨.ofString file, (words.value? .config).map .ofString, words.given .verbose, words.given .quiet⟩

def wordsOf (allowed : List Choice) (rest : List String) : Except ArgumentFault Words :=
  match readWords allowed {} none rest with
  | none => .error .usage
  | some words => do
    checkPaths words
    return words

def ofName (name : String) (rest : List String) : Except ArgumentFault Command :=
  match name with
  | "list" => do
    let words ← wordsOf [.kind, .config, .verbose, .quiet] rest
    match words.plain with
    | [file] => return .list (requestOf words file) (words.value? .kind)
    | _ => throw .usage
  | "show" => do
    let words ← wordsOf [.config, .verbose, .quiet] rest
    match words.plain with
    | [file, id] => return .inspect (requestOf words file) id
    | _ => throw .usage
  | _ => .error .usage

def ofArguments : List String → Except ArgumentFault Command
  | "--" :: name :: rest => ofName name rest
  | name :: rest => ofName name rest
  | [] => .error .usage

def request : Command → Request
  | list request _ => request
  | inspect request _ => request

def paths (around : Settings.Surroundings) (command : Command) : List Path :=
  Settings.paths around command.request.config ++ [command.request.file]

inductive Failure where
  | settings (fault : Settings.LoadFault)
  | encoding (fault : Encoding.ReadFault)
  | path (fault : PathFault) (path : Path)
  | catalog (fault : Catalog.Fault)
  | markup (fault : Console.MarkupFault)

def Failure.message : Failure → String
  | settings fault => fault.message
  | encoding fault => fault.message
  | path fault p => fault.message p
  | catalog fault => fault.message
  | markup fault => fault.message

/-- What a command needs of the machine it runs on: the width of the console, the pictographs that
have names there, and decoders for the encodings that are not read here. -/
structure Host where
  width : Nat
  pictographs : Console.Pictographs
  decoders : Encoding.Decoders

/-- What comes of a command. The log has no level before the settings are known. -/
structure Outcome where
  exit : Nat
  output : List Char := []
  records : List Log.Record := []
  level : Option Log.Level := none
  failure : Option Failure := none

def success : Nat := 0

def notFound : Nat := 1

def usageError : Nat := 2

def configError : Nat := 81

def inputError : Nat := 82

def printed (lines : List (List Char)) : List Char :=
  lines.flatMap (· ++ ['\n'])

namespace Outcome

def fail (o : Outcome) (failure : Failure) : Outcome :=
  { o with exit := notFound, output := [], failure := some failure }

def print (o : Outcome) : Except Console.MarkupFault (List (List Char)) → Outcome
  | .ok lines => { o with output := o.output ++ printed lines }
  | .error fault => o.fail (.markup fault)

def say (o : Outcome) (host : Host) (markup : String) : Outcome :=
  o.print ((Console.plain host.pictographs markup).map (Console.wrap host.width true))

end Outcome

def alert (label text : String) : String :=
  Report.styled "red" label ++ " " ++ Console.escape text

def levelOf (v : Verbosity) : Log.Level :=
  Log.levelFor (v = .verbose) (v = .quiet)

def settingsFor (around : Settings.Surroundings) (request : Request) :
    Except Settings.LoadFault Settings :=
  Settings.load around request.config
    [("verbose", .flag request.verbose), ("quiet", .flag request.quiet)]

def catalogFor (around : Settings.Surroundings) (decoders : Encoding.Decoders)
    (settings : Settings) (file : Path) : List Notice × Except (Problem ⊕ Failure) Catalog :=
  match CommentFile.read decoders around.find file settings.encoding with
  | .error (.problem p) => ([], .error (.inl p))
  | .error (.encoding fault) => ([], .error (.inr (.encoding fault)))
  | .error (.path fault path) => ([], .error (.inr (.path fault path)))
  | .ok (comments, notices) =>
    match Catalog.build settings comments with
    | (more, .ok catalog) => (notices ++ more, .ok catalog)
    | (more, .error (.unresolved id)) => (notices ++ more, .error (.inl (.unresolved id)))
    | (more, .error fault) => (notices ++ more, .error (.inr (.catalog fault)))

def withCatalog (around : Settings.Surroundings) (host : Host) (request : Request)
    (next : Outcome → Catalog → Outcome) : Outcome :=
  match settingsFor around request with
  | .error (.problem p) =>
    Outcome.say { exit := configError } host (alert "Configuration error:" p.text)
  | .error fault => Outcome.fail { exit := notFound } (.settings fault)
  | .ok settings =>
    let level := levelOf settings.verbosity
    let (notices, result) := catalogFor around host.decoders settings request.file
    let records := Log.passing level (notices.map Notice.record)
    let start : Outcome := { exit := success, level := some level, records }
    match result with
    | .ok catalog => next start catalog
    | .error (.inl p) => { start with exit := inputError }.say host (alert "Error:" p.text)
    | .error (.inr failure) => start.fail failure

def rowMarkup (id : String) (e : Entity) : List String :=
  [e.kind.word, Console.escape id,
   Console.escape (excerpt (e.description.getD "") Excerpt.defaultWidth)]

/-- What a catalog is called: its assembly, or the name of its file. -/
def titleOf (catalog : Catalog) (file : Path) : String :=
  (catalog.assembly.filter (!·.isEmpty)).getD file.name

def columns : List Console.Column :=
  [⟨"Kind".toList, false⟩, ⟨"Id".toList, true⟩, ⟨"Summary".toList, true⟩]

def tableOf (pictographs : Console.Pictographs) (title : String)
    (entities : Ordered String Entity) : Except Console.MarkupFault Console.Table := do
  let rows ← entities.mapM fun (id, e) => (rowMarkup id e).mapM (Console.plain pictographs)
  let title ← Console.plain pictographs s!"{title} ({entities.length} entities)"
  return ⟨title, columns, rows⟩

def panelOf (host : Host) (id : String) (e : Entity) :
    Except Console.MarkupFault (List (List Char)) := do
  let title := Console.escape ((e.name.filter (!·.isEmpty)).getD id)
  let title ← Console.plain host.pictographs title
  let body ← Console.plain host.pictographs (Report.render e)
  return Console.panel host.width title body

def run (around : Settings.Surroundings) (host : Host) : Command → Outcome
  | .list request kind =>
    match kind.filter (!Kind.isWord ·) with
    | some unknown => Outcome.say { exit := inputError } host (alert "Unknown kind:" unknown)
    | none =>
      withCatalog around host request fun start catalog =>
        let entities := match kind with
          | some word => catalog.ofKind word
          | none => catalog.entities
        let table := tableOf host.pictographs (titleOf catalog request.file) entities
        start.print (table.map (·.lines host.width))
  | .inspect request id =>
    withCatalog around host request fun start catalog =>
      match catalog.find? id with
      | none => { start with exit := notFound }.say host (alert "No entity with id" id)
      | some e => start.print (panelOf host id e)

def runArguments (around : Settings.Surroundings) (host : Host) (arguments : List String) :
    Outcome :=
  match ofArguments arguments with
  | .error .usage => { exit := usageError }
  | .error (.path fault path) => Outcome.fail { exit := notFound } (.path fault path)
  | .ok command => command.run around host

end Command

end Apidoc
