import Apidoc.CommentFile
import Apidoc.Encoding
import Apidoc.Files.Folder

/-!
Reading a file of comments from where it is stored.
-/
namespace Apidoc.CommentFile

inductive ReadFault where
  | problem (p : Problem)
  | encoding (fault : Encoding.ReadFault)
  | path (fault : PathFault) (path : Path)

/-- Reads a file in the encoding with a given name. A null character in the name is found before the
file is opened, all else that is wrong with the name afterwards. -/
def read (decoders : Encoding.Decoders) (find : Path → Place) (path : Path) (encoding : String) :
    Except ReadFault (CommentFile × List Notice) :=
  match find path with
  | .file bytes =>
    match Encoding.readText decoders encoding bytes with
    | .ok text => (parse text path.shown).mapError .problem
    | .error (.undecodable fault) => .error (.problem (.file path.shown fault.message))
    | .error fault => .error (.encoding fault)
  | .unreadable fault =>
    if encoding.toList.contains '\x00' then .error (.encoding .nulInName)
    else .error (.problem (.file path.shown (fault.message path)))
  | .absent fault =>
    if fault.isBlind then .error (.path fault path)
    else .error (.problem (.file path.shown "file does not exist"))
  | .directory => .error (.problem (.file path.shown "file does not exist"))

end Apidoc.CommentFile
