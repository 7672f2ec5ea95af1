import Apidoc.Encoding.Decoder
import Apidoc.Encoding.Registry
import Apidoc.Encoding.Utf32
import Apidoc.Encoding.Utf8

/-!
The text of a file in an encoding that is given by name.
-/
namespace Apidoc.Encoding

/-- Why the bytes of a file cannot be read as text. Of surrogates it tells the first, where it
stands, and how many there are. -/
inductive ReadFault where
  | undecodable (fault : Fault)
  | noMark (bits : Nat)
  | undefined
  | failed (message : String)
  | surrogates (first start length : Nat)
  | notText (name : String)
  | unknown (name : String)
  | nulInName
  deriving DecidableEq, Repr

def ReadFault.message : ReadFault → String
  | .undecodable fault => fault.message
  | .noMark bits => s!"UTF-{bits} stream does not start with BOM"
  | .undefined => "undefined encoding"
  | .failed text => text
  | .surrogates first start length =>
    let place :=
      if length = 1 then
        "character '\\u" ++ String.ofList (Digest.hexDigits 4 first) ++ s!"' in position {start}"
      else s!"characters in position {start}-{start + length - 1}"
    s!"'utf-8' codec can't encode {place}: surrogates not allowed"
  | .notText name =>
    s!"'{name}' is not a text encoding; use codecs.open() to handle arbitrary codecs"
  | .unknown name => s!"unknown encoding: {name}"
  | .nulInName => "embedded null character"

def unifyLines : List Char → List Char
  | [] => []
  | '\r' :: '\n' :: rest => '\n' :: unifyLines rest
  | c :: rest => (if c == '\r' then '\n' else c) :: unifyLines rest

/-- The characters of code points. Surrogates are told by their place among the characters of the
text whose lines are unified. -/
def ofCodes (points : List Nat) : Except ReadFault (List Char) :=
  let isChar := fun n : Nat => decide n.isValidChar
  let chars := (points.takeWhile isChar).map Char.ofNat
  match points.dropWhile isChar with
  | [] => .ok chars
  | first :: rest =>
    let more := rest.takeWhile (!isChar ·)
    .error (.surrogates first (unifyLines chars).length (more.length + 1))

def decodeAnnounced (width : Nat) (announced? : List UInt8 → Option Utf16.Order)
    (read : Utf16.Order → Nat → List UInt8 → Except Fault (List Char)) (bytes : List UInt8) :
    Except ReadFault (List Char) :=
  match announced? bytes with
  | some order => (read order width (bytes.drop width)).mapError .undecodable
  | none =>
    match read .littleEndian 0 bytes with
    | .error fault => .error (.undecodable fault)
    | .ok [] => .ok []
    | .ok _ => .error (.noMark (8 * width))

def Reading.text : Reading → Except ReadFault (List Char)
  | .codes points => ofCodes points
  | .undecodable fault => .error (.undecodable fault)
  | .failed message => .error (.failed message)

def decode (decoders : Decoders) (name : String) (encoding : Encoding) (bytes : List UInt8) :
    Except ReadFault (List Char) :=
  match encoding with
  | utf8 => (Utf8.decode bytes).mapError .undecodable
  | utf8Marked => (Utf8.decodeMarked bytes).mapError .undecodable
  | utf16 => decodeAnnounced 2 Utf16.announced? Utf16.read bytes
  | utf16Ordered order => (Utf16.read order 0 bytes).mapError .undecodable
  | utf32 => decodeAnnounced 4 Utf32.announced? Utf32.read bytes
  | utf32Ordered order => (Utf32.read order 0 bytes).mapError .undecodable
  | singleByte table => (SingleByte.decode table bytes).mapError .undecodable
  | undefined => .error .undefined
  | foreign own => (decoders own bytes).text
  | notText => .error (.notText name)

def readText (decoders : Decoders) (name : String) (bytes : List UInt8) :
    Except ReadFault String :=
  if name.toList.contains '\x00' then .error .nulInName
  else
    match named? name with
    | none => .error (.unknown name)
    | some encoding =>
      (decode decoders name encoding bytes).map fun text => String.ofList (unifyLines text)

end Apidoc.Encoding
