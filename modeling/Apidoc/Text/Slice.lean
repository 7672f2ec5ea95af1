/-!
Leading parts of a text given by a signed end: a negative end counts from the text's own end.
-/
namespace Apidoc.Text

/-- The first `stop` characters of `s`; for a negative `stop`, all but the last `-stop`. An end
beyond either side of the text is that side. -/
def takeUpTo (stop : Int) (s : List Char) : List Char :=
  match stop with
  | .ofNat n => s.take n
  | .negSucc n => s.take (s.length - (n + 1))

theorem takeUpTo_of_nonneg {stop : Int} (nonneg : 0 ≤ stop) (s : List Char) :
    takeUpTo stop s = s.take stop.toNat := by
  obtain ⟨n, rfl⟩ := Int.eq_ofNat_of_zero_le nonneg
  rfl

end Apidoc.Text
