import Apidoc.Digest.Sha1

/-!
Bytes that are not text in the encoding they are read in.
-/
namespace Apidoc.Encoding

inductive Reason where
  | invalidStart
  | invalidContinuation
  | unexpectedEnd
  | outOfRange
  | undefinedByte
  | truncated
  | loneLowSurrogate
  | loneHighSurrogate
  | surrogate
  | beyondUnicode
  | told (text : String)
  deriving DecidableEq, Repr

def Reason.message : Reason → String
  | .invalidStart => "invalid start byte"
  | .invalidContinuation => "invalid continuation byte"
  | .unexpectedEnd => "unexpected end of data"
  | .outOfRange => "ordinal not in range(128)"
  | .undefinedByte => "character maps to <undefined>"
  | .truncated => "truncated data"
  | .loneLowSurrogate => "illegal encoding"
  | .loneHighSurrogate => "illegal UTF-16 surrogate"
  | .surrogate => "code point in surrogate code point range(0xd800, 0xe000)"
  | .beyondUnicode => "code point not in range(0x110000)"
  | .told text => text

structure Fault where
  encoding : String
  byte : UInt8
  start : Nat
  length : Nat
  reason : Reason
  deriving DecidableEq, Repr

/-- The text for a fault: a single byte is shown, more are given by where they stand. -/
def Fault.message (f : Fault) : String :=
  let place :=
    if f.length = 1 then
      s!"byte 0x{String.ofList (Digest.hexDigits 2 f.byte.toNat)} in position {f.start}"
    else s!"bytes in position {f.start}-{f.start + f.length - 1}"
  s!"'{f.encoding}' codec can't decode {place}: {f.reason.message}"

end Apidoc.Encoding
