/-!
The SHA-1 digest of a byte sequence, and its spelling in hexadecimal digits.
-/
namespace Apidoc.Digest

structure Sha1State where
  a : UInt32
  b : UInt32
  c : UInt32
  d : UInt32
  e : UInt32

namespace Sha1State

def initial : Sha1State :=
  ⟨0x67452301, 0xEFCDAB89, 0x98BADCFE, 0x10325476, 0xC3D2E1F0⟩

def add (s t : Sha1State) : Sha1State :=
  ⟨s.a + t.a, s.b + t.b, s.c + t.c, s.d + t.d, s.e + t.e⟩

def toList (s : Sha1State) : List UInt32 :=
  [s.a, s.b, s.c, s.d, s.e]

end Sha1State

namespace Sha1

def rotateLeft (x n : UInt32) : UInt32 :=
  (x <<< n) ||| (x >>> (32 - n))

def bigEndian : Nat → Nat → List UInt8
  | 0, _ => []
  | count + 1, n => bigEndian count (n / 256) ++ [UInt8.ofNat (n % 256)]

def padded (message : List UInt8) : Array UInt8 :=
  let length := message.length
  let zeros := (119 - length % 64) % 64
  (message ++ [0x80] ++ List.replicate zeros 0 ++ bigEndian 8 (8 * length)).toArray

def wordAt (bytes : Array UInt8) (i : Nat) : UInt32 :=
  (List.range 4).foldl (fun w k => (w <<< 8) ||| (bytes.getD (i + k) 0).toUInt32) 0

def schedule (bytes : Array UInt8) (start : Nat) : Array UInt32 :=
  let given := ((List.range 16).map fun i => wordAt bytes (start + 4 * i)).toArray
  (List.range 64).foldl
    (fun w i =>
      w.push (rotateLeft
        (w.getD (i + 13) 0 ^^^ w.getD (i + 8) 0 ^^^ w.getD (i + 2) 0 ^^^ w.getD i 0) 1))
    given

def mix (t : Nat) (b c d : UInt32) : UInt32 × UInt32 :=
  if t < 20 then ((b &&& c) ||| (~~~b &&& d), 0x5A827999)
  else if t < 40 then (b ^^^ c ^^^ d, 0x6ED9EBA1)
  else if t < 60 then ((b &&& c) ||| (b &&& d) ||| (c &&& d), 0x8F1BBCDC)
  else (b ^^^ c ^^^ d, 0xCA62C1D6)

def round (s : Sha1State) (t : Nat) (w : UInt32) : Sha1State :=
  let (f, k) := mix t s.b s.c s.d
  ⟨rotateLeft s.a 5 + f + s.e + k + w, s.a, rotateLeft s.b 30, s.c, s.d⟩

def block (bytes : Array UInt8) (s : Sha1State) (start : Nat) : Sha1State :=
  let w := schedule bytes start
  s.add ((List.range 80).foldl (fun s t => round s t (w.getD t 0)) s)

def final (message : List UInt8) : Sha1State :=
  let bytes := padded message
  (List.range (bytes.size / 64)).foldl (fun s i => block bytes s (64 * i)) .initial

end Sha1

def hexDigit (n : Nat) : Char :=
  "0123456789abcdef".toList.getD n '0'

/-- The `count` low hexadecimal digits of `n`, most significant first. -/
def hexDigits : Nat → Nat → List Char
  | 0, _ => []
  | count + 1, n => hexDigits count (n / 16) ++ [hexDigit (n % 16)]

def sha1Hex (text : String) : List Char :=
  (Sha1.final text.toUTF8.toList).toList.flatMap fun w => hexDigits 8 w.toNat

end Apidoc.Digest
