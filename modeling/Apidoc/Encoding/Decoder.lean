import Apidoc.Encoding.Fault

/-!
Decoders that are not part of this library. All that is known of one is what it can come to.
-/
namespace Apidoc.Encoding

/-- What a decoder makes of all the bytes of a file: code points, surrogates possibly among them, or
that some bytes stand for nothing, or that it cannot read the bytes as a whole. -/
inductive Reading where
  | codes (points : List Nat)
  | undecodable (fault : Fault)
  | failed (message : String)

abbrev Decoders := String → List UInt8 → Reading

def noDecoders : Decoders := fun own bytes =>
  match bytes with
  | [] => .codes []
  | b :: _ => .undecodable ⟨own, b, 0, bytes.length, .told "no decoder"⟩

end Apidoc.Encoding
