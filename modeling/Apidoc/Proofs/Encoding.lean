import Apidoc.Encoding
import Apidoc.Proofs.Outcome
import Apidoc.Proofs.Settings.Checked
import Apidoc.Proofs.Text.Stretch
import Mathlib.Data.List.TakeWhile

/-!
How reading text fails. Bytes that stand for nothing are one thing; the other failures lie in the
encoding as a whole, and `Unusable` lists them. A decoder from elsewhere may come to anything that
a `Reading` can be.
-/
namespace Apidoc.Encoding

variable {bytes : List UInt8} {fault : ReadFault}

theorem Utf16.read_eq_nil_iff {order : Utf16.Order} {position : Nat} :
    Utf16.read order position bytes = .ok [] ↔ bytes = [] := by
  constructor
  · intro decoded
    unfold Utf16.read at decoded
    split at decoded
    · rfl
    · cases decoded
    · simp only at decoded
      split at decoded
      · split at decoded
        · split at decoded
          · obtain ⟨text, -, impossible⟩ := map_eq_ok_iff.mp decoded
            cases impossible
          · cases decoded
        · cases decoded
      · split at decoded
        · cases decoded
        · obtain ⟨text, -, impossible⟩ := map_eq_ok_iff.mp decoded
          cases impossible
  · intro empty
    rw [empty]
    rfl

theorem Utf32.read_eq_nil_iff {order : Utf16.Order} {position : Nat} :
    Utf32.read order position bytes = .ok [] ↔ bytes = [] := by
  constructor
  · intro decoded
    unfold Utf32.read at decoded
    split at decoded
    · rfl
    · simp only at decoded
      split at decoded
      · cases decoded
      · split at decoded
        · cases decoded
        · obtain ⟨text, -, impossible⟩ := map_eq_ok_iff.mp decoded
          cases impossible
    · cases decoded
  · intro empty
    rw [empty]
    rfl

section Announced

variable {width : Nat} {announced? : List UInt8 → Option Utf16.Order}
  {read : Utf16.Order → Nat → List UInt8 → Except Fault (List Char)}

/-- Without a mark all bytes are read before it is found missing; only where there are none is
nothing missing. -/
theorem decodeAnnounced_error_iff
    (empty : read .littleEndian 0 bytes = .ok [] ↔ bytes = []) :
    (decodeAnnounced width announced? read bytes = .error fault ∧
        ∀ f, fault ≠ .undecodable f) ↔
      fault = .noMark (8 * width) ∧ announced? bytes = none ∧ bytes ≠ [] ∧
        ∃ text, read .littleEndian 0 bytes = .ok text := by
  unfold decodeAnnounced
  split
  · next order marked =>
    refine iff_of_false ?_ ?_
    · rintro ⟨failed, other⟩
      obtain ⟨f, -, same⟩ := mapError_eq_error_iff.mp failed
      exact other f same.symm
    · rintro ⟨-, unmarked, -⟩
      rw [marked] at unmarked
      cases unmarked
  · next unmarked =>
    split
    · next f garbled =>
      refine iff_of_false ?_ ?_
      · rintro ⟨failed, other⟩
        cases failed
        exact other f rfl
      · rintro ⟨-, -, -, text, decoded⟩
        rw [garbled] at decoded
        cases decoded
    · next decoded =>
      refine iff_of_false ?_ ?_
      · rintro ⟨failed, -⟩
        cases failed
      · rintro ⟨-, -, some, -⟩
        exact some (empty.mp decoded)
    · next text some decoded =>
      have nonempty : bytes ≠ [] := by
        intro none
        rw [empty.mpr none] at decoded
        cases decoded
        exact some rfl
      constructor
      · rintro ⟨failed, -⟩
        cases failed
        exact ⟨rfl, unmarked, nonempty, text, decoded⟩
      · rintro ⟨rfl, -⟩
        exact ⟨rfl, nofun⟩

end Announced

/-- The first code points of a text that are no characters: `first` and those in `run`. -/
structure Stray (points before : List Nat) (first : Nat) (run after : List Nat) : Prop where
  split : points = before ++ (first :: run ++ after)
  before : ∀ n ∈ before, n.isValidChar
  lone : ∀ n ∈ first :: run, ¬n.isValidChar
  after : ∀ n ∈ after.head?, n.isValidChar

theorem stray_of_ofCodes {points : List Nat} (failed : ofCodes points = .error fault) :
    ∃ before first run after, Stray points before first run after ∧
      fault = .surrogates first (unifyLines (before.map Char.ofNat)).length (run.length + 1) := by
  unfold ofCodes at failed
  simp only at failed
  split at failed
  · cases failed
  · next first rest found =>
    cases failed
    let isChar := fun n : Nat => decide n.isValidChar
    refine ⟨points.takeWhile isChar, first, rest.takeWhile (!isChar ·),
      rest.dropWhile (!isChar ·), ?_, rfl⟩
    have stop := Text.stops_dropWhile first (congrArg List.head? found)
    constructor
    · rw [List.cons_append, List.takeWhile_append_dropWhile, ← found,
        List.takeWhile_append_dropWhile]
    · intro n there
      have valid : isChar n = true := List.mem_takeWhile_imp there
      exact of_decide_eq_true valid
    · intro n there
      rcases List.mem_cons.mp there with rfl | later
      · exact of_decide_eq_false stop
      · have other : (!isChar n) = true := List.mem_takeWhile_imp (p := (!isChar ·)) later
        exact of_decide_eq_false (Bool.not_eq_true' _ ▸ other)
    · intro n there
      have valid : (!isChar n) = false := Text.stops_dropWhile n there
      exact of_decide_eq_true (Bool.not_eq_false' _ ▸ valid)

theorem Stray.ofCodes_eq {points before run after : List Nat} {first : Nat}
    (stray : Stray points before first run after) :
    ofCodes points = .error
      (.surrogates first (unifyLines (before.map Char.ofNat)).length (run.length + 1)) := by
  let isChar := fun n : Nat => decide n.isValidChar
  have characters : ∀ n ∈ before, isChar n = true := fun n there =>
    decide_eq_true (stray.before n there)
  have lone : ∀ n ∈ first :: run, isChar n = false := fun n there =>
    decide_eq_false (stray.lone n there)
  have turn : ∀ n ∈ (first :: run ++ after).head?, isChar n = false := by
    rintro n ⟨⟩
    exact lone first List.mem_cons_self
  have strays : ∀ n ∈ run, (!isChar n) = true := by
    intro n there
    rw [lone n (List.mem_cons_of_mem first there)]
    rfl
  have back : ∀ n ∈ after.head?, (!isChar n) = false := by
    intro n there
    have valid : isChar n = true := decide_eq_true (stray.after n there)
    rw [valid]
    rfl
  unfold ofCodes
  simp only
  rw [stray.split, Text.takeWhile_stretch characters turn, Text.dropWhile_stretch characters turn]
  simp only [List.cons_append]
  rw [Text.takeWhile_stretch (p := (!isChar ·)) strays back]

/-- A failure of reading bytes that lies in the encoding and not in the bytes of a character. -/
inductive Unusable (decoders : Decoders) (name : String) (bytes : List UInt8) : ReadFault → Prop
  | notText (known : named? name = some .notText) : Unusable decoders name bytes (.notText name)
  | undefined (known : named? name = some .undefined) : Unusable decoders name bytes .undefined
  | unmarked16 {text : List Char} (known : named? name = some .utf16)
      (unmarked : Utf16.announced? bytes = none) (some : bytes ≠ [])
      (decoded : Utf16.read .littleEndian 0 bytes = .ok text) :
      Unusable decoders name bytes (.noMark 16)
  | unmarked32 {text : List Char} (known : named? name = some .utf32)
      (unmarked : Utf32.announced? bytes = none) (some : bytes ≠ [])
      (decoded : Utf32.read .littleEndian 0 bytes = .ok text) :
      Unusable decoders name bytes (.noMark 32)
  | failed {own message : String} (known : named? name = some (.foreign own))
      (failed : decoders own bytes = .failed message) :
      Unusable decoders name bytes (.failed message)
  | surrogates {own : String} {points before run after : List Nat} {first : Nat}
      (known : named? name = some (.foreign own)) (read : decoders own bytes = .codes points)
      (stray : Stray points before first run after) :
      Unusable decoders name bytes
        (.surrogates first (unifyLines (before.map Char.ofNat)).length (run.length + 1))

variable {decoders : Decoders} {name : String}

theorem unusable_of_decode {encoding : Encoding} (known : named? name = some encoding)
    (failed : decode decoders name encoding bytes = .error fault)
    (other : ∀ f, fault ≠ .undecodable f) : Unusable decoders name bytes fault := by
  -- Most encodings fail at bytes only.
  have ordinary {decoded : Except Encoding.Fault (List Char)}
      (failed : decoded.mapError .undecodable = .error fault) : False := by
    obtain ⟨f, -, same⟩ := mapError_eq_error_iff.mp failed
    exact other f same.symm
  cases encoding with
  | utf16 =>
    obtain ⟨rfl, unmarked, some, text, decoded⟩ :=
      (decodeAnnounced_error_iff Utf16.read_eq_nil_iff).mp ⟨failed, other⟩
    exact .unmarked16 known unmarked some decoded
  | utf32 =>
    obtain ⟨rfl, unmarked, some, text, decoded⟩ :=
      (decodeAnnounced_error_iff Utf32.read_eq_nil_iff).mp ⟨failed, other⟩
    exact .unmarked32 known unmarked some decoded
  | notText =>
    cases failed
    exact .notText known
  | undefined =>
    cases failed
    exact .undefined known
  | foreign own =>
    simp only [decode] at failed
    cases read : decoders own bytes with
    | codes points =>
      rw [read] at failed
      obtain ⟨before, first, run, after, stray, rfl⟩ := stray_of_ofCodes failed
      exact .surrogates known read stray
    | undecodable f =>
      rw [read] at failed
      cases failed
      exact absurd rfl (other f)
    | failed message =>
      rw [read] at failed
      cases failed
      exact .failed known read
  | utf8 => exact (ordinary failed).elim
  | utf8Marked => exact (ordinary failed).elim
  | utf16Ordered order => exact (ordinary failed).elim
  | utf32Ordered order => exact (ordinary failed).elim
  | singleByte table => exact (ordinary failed).elim

theorem Unusable.decode_eq (unusable : Unusable decoders name bytes fault) :
    ∃ encoding, named? name = some encoding ∧
      decode decoders name encoding bytes = .error fault ∧ ∀ f, fault ≠ .undecodable f := by
  cases unusable with
  | notText known => exact ⟨_, known, rfl, nofun⟩
  | undefined known => exact ⟨_, known, rfl, nofun⟩
  | unmarked16 known unmarked some decoded =>
    exact ⟨_, known, (decodeAnnounced_error_iff Utf16.read_eq_nil_iff).mpr
      ⟨rfl, unmarked, some, _, decoded⟩⟩
  | unmarked32 known unmarked some decoded =>
    exact ⟨_, known, (decodeAnnounced_error_iff Utf32.read_eq_nil_iff).mpr
      ⟨rfl, unmarked, some, _, decoded⟩⟩
  | failed known failed =>
    refine ⟨_, known, ?_, nofun⟩
    simp only [decode, failed]
    rfl
  | surrogates known read stray =>
    refine ⟨_, known, ?_, nofun⟩
    simp only [decode, read]
    exact stray.ofCodes_eq

/-- In an encoding that is accepted, all failures but those at garbled bytes lie in the encoding. -/
theorem unusable_iff (accepted : Settings.checkEncoding name = .ok ()) :
    Unusable decoders name bytes fault ↔
      readText decoders name bytes = .error fault ∧ ∀ f, fault ≠ .undecodable f := by
  obtain ⟨-, noNull, some⟩ := Settings.checkEncoding_eq_ok_iff.mp accepted
  obtain ⟨encoding, known⟩ := Option.isSome_iff_exists.mp some
  have plain : name.toList.contains '\x00' = false := by simpa using noNull
  unfold readText
  simp only [plain, Bool.false_eq_true, if_false, known, map_eq_error_iff]
  constructor
  · intro unusable
    obtain ⟨other, knownAgain, failed⟩ := unusable.decode_eq
    cases known.symm.trans knownAgain
    exact failed
  · rintro ⟨failed, other⟩
    exact unusable_of_decode known failed other

/-- The encodings from elsewhere whose decoders may fail as a whole or make surrogates. -/
def delicate : List String :=
  ["idna", "punycode", "raw_unicode_escape", "unicode_escape", "utf_7"]

/-- Decoders that make characters of bytes or find bytes that stand for nothing, but for those of
the delicate encodings. -/
def Orderly (decoders : Decoders) : Prop :=
  ∀ own ∉ delicate, ∀ bytes,
    (∃ points, decoders own bytes = .codes points ∧ ∀ n ∈ points, n.isValidChar) ∨
      ∃ fault, decoders own bytes = .undecodable fault

theorem orderly_noDecoders : Orderly noDecoders := by
  intro own _ bytes
  cases bytes with
  | nil => exact .inl ⟨[], rfl, nofun⟩
  | cons b rest => exact .inr ⟨_, rfl⟩

/-- The encodings that can fail otherwise than at bytes when decoders are orderly. -/
def unruly : List Encoding :=
  [.notText, .undefined, .utf16, .utf32] ++ delicate.map .foreign

theorem Unusable.named (unusable : Unusable decoders name bytes fault)
    (orderly : Orderly decoders) : ∃ encoding ∈ unruly, named? name = some encoding := by
  have listed {own : String} (found : own ∈ delicate) : Encoding.foreign own ∈ unruly :=
    List.mem_append_right _ (List.mem_map_of_mem found)
  cases unusable with
  | notText known => exact ⟨_, by simp [unruly], known⟩
  | undefined known => exact ⟨_, by simp [unruly], known⟩
  | unmarked16 known => exact ⟨_, by simp [unruly], known⟩
  | unmarked32 known => exact ⟨_, by simp [unruly], known⟩
  | @failed own message known failed =>
    refine ⟨_, listed ?_, known⟩
    by_contra other
    rcases orderly own other bytes with ⟨points, read, -⟩ | ⟨f, read⟩
    · cases failed.symm.trans read
    · cases failed.symm.trans read
  | @surrogates own points before run after first known read stray =>
    refine ⟨_, listed ?_, known⟩
    by_contra other
    rcases orderly own other bytes with ⟨points, again, valid⟩ | ⟨f, again⟩
    · cases read.symm.trans again
      refine stray.lone first List.mem_cons_self (valid first ?_)
      rw [stray.split]
      simp
    · cases read.symm.trans again

end Apidoc.Encoding
