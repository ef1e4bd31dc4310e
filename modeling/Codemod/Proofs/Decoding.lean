import Codemod.Proofs.Edit
import Mathlib.Data.List.Forall2
import Mathlib.Order.Bounds.Defs

/-!
Strict decoding. Well-formed bytes are told by ranges for the bytes of a character, without any
reference to what they encode. A file is decoded if and only if its bytes are well-formed; if they
are not, the offset in its failure is the length of the longest part from the beginning that is.
-/
namespace Codemod

namespace Utf8

/-- The ranges of the bytes of a character, one row for each form that it may have. The second byte
is bounded where an overlong form, a surrogate or a value beyond the last code point could be. -/
def forms : List (List (UInt8 × UInt8)) := [
  [(0x00, 0x7F)],
  [(0xC2, 0xDF), (0x80, 0xBF)],
  [(0xE0, 0xE0), (0xA0, 0xBF), (0x80, 0xBF)],
  [(0xE1, 0xEC), (0x80, 0xBF), (0x80, 0xBF)],
  [(0xED, 0xED), (0x80, 0x9F), (0x80, 0xBF)],
  [(0xEE, 0xEF), (0x80, 0xBF), (0x80, 0xBF)],
  [(0xF0, 0xF0), (0x90, 0xBF), (0x80, 0xBF), (0x80, 0xBF)],
  [(0xF1, 0xF3), (0x80, 0xBF), (0x80, 0xBF), (0x80, 0xBF)],
  [(0xF4, 0xF4), (0x80, 0x8F), (0x80, 0xBF), (0x80, 0xBF)]]

def Within (b : UInt8) (range : UInt8 × UInt8) : Prop :=
  range.1.toNat ≤ b.toNat ∧ b.toNat ≤ range.2.toNat

def Sequence (s : Bytes) : Prop := ∃ form ∈ forms, List.Forall₂ Within s form

inductive WellFormed : Bytes → Prop where
  | nil : WellFormed []
  | cons {s rest : Bytes} (first : Sequence s) (others : WellFormed rest) : WellFormed (s ++ rest)

section Forms

variable {a b c d : UInt8}

theorem sequenceOne : Sequence [a] ↔ a.toNat ≤ 127 := by
  simp [Sequence, forms, Within]

theorem sequenceTwo :
    Sequence [a, b] ↔ (194 ≤ a.toNat ∧ a.toNat ≤ 223) ∧ 128 ≤ b.toNat ∧ b.toNat ≤ 191 := by
  simp [Sequence, forms, Within]

theorem sequenceThree :
    Sequence [a, b, c] ↔ (224 ≤ a.toNat ∧ a.toNat ≤ 239) ∧ (128 ≤ b.toNat ∧ b.toNat ≤ 191) ∧
      (128 ≤ c.toNat ∧ c.toNat ≤ 191) ∧ (a.toNat = 224 → 160 ≤ b.toNat) ∧
      (a.toNat = 237 → b.toNat ≤ 159) := by
  simp [Sequence, forms, Within]
  omega

theorem sequenceFour :
    Sequence [a, b, c, d] ↔ (240 ≤ a.toNat ∧ a.toNat ≤ 244) ∧ (128 ≤ b.toNat ∧ b.toNat ≤ 191) ∧
      (128 ≤ c.toNat ∧ c.toNat ≤ 191) ∧ (128 ≤ d.toNat ∧ d.toNat ≤ 191) ∧
      (a.toNat = 240 → 144 ≤ b.toNat) ∧ (a.toNat = 244 → b.toNat ≤ 143) := by
  simp [Sequence, forms, Within]
  omega

theorem charExists (v : Nat) (valid : v.isValidChar) : ∃ x : Char, x.val.toNat = v :=
  ⟨Char.ofNat v, charOfNat valid⟩

theorem oneEncodes (one : Sequence [a]) : ∃ x, String.utf8EncodeChar x = [a] := by
  have lead := sequenceOne.mp one
  obtain ⟨x, value⟩ := charExists a.toNat (.inl (by omega))
  have first : a = UInt8.ofNat x.val.toNat := byteOf value.symm
  exact ⟨x, by rw [encodeOne (by omega), ← first]⟩

theorem twoEncode (two : Sequence [a, b]) : ∃ x, String.utf8EncodeChar x = [a, b] := by
  obtain ⟨lead, low⟩ := sequenceTwo.mp two
  obtain ⟨x, value⟩ := charExists ((a.toNat - 192) * 64 + (b.toNat - 128)) (.inl (by omega))
  have first : a = UInt8.ofNat (x.val.toNat / 64 % 32 + 192) := byteOf (by omega)
  have second : b = UInt8.ofNat (x.val.toNat % 64 + 128) := byteOf (by omega)
  exact ⟨x, by rw [encodeTwo (by omega) (by omega), ← first, ← second]⟩

theorem threeEncode (three : Sequence [a, b, c]) : ∃ x, String.utf8EncodeChar x = [a, b, c] := by
  obtain ⟨lead, middle, low, least, scalar⟩ := sequenceThree.mp three
  have valid : (((a.toNat - 224) * 64 + (b.toNat - 128)) * 64 + (c.toNat - 128)).isValidChar := by
    simp only [Nat.isValidChar]
    omega
  obtain ⟨x, value⟩ := charExists _ valid
  have first : a = UInt8.ofNat (x.val.toNat / 4096 % 16 + 224) := byteOf (by omega)
  have second : b = UInt8.ofNat (x.val.toNat / 64 % 64 + 128) := byteOf (by omega)
  have third : c = UInt8.ofNat (x.val.toNat % 64 + 128) := byteOf (by omega)
  exact ⟨x, by rw [encodeThree (by omega) (by omega), ← first, ← second, ← third]⟩

theorem fourEncode (four : Sequence [a, b, c, d]) : ∃ x, String.utf8EncodeChar x = [a, b, c, d] := by
  obtain ⟨lead, high, middle, low, least, last⟩ := sequenceFour.mp four
  have valid : ((((a.toNat - 240) * 64 + (b.toNat - 128)) * 64 + (c.toNat - 128)) * 64 +
      (d.toNat - 128)).isValidChar := by
    simp only [Nat.isValidChar]
    omega
  obtain ⟨x, value⟩ := charExists _ valid
  have first : a = UInt8.ofNat (x.val.toNat / 262144 % 8 + 240) := byteOf (by omega)
  have second : b = UInt8.ofNat (x.val.toNat / 4096 % 64 + 128) := byteOf (by omega)
  have third : c = UInt8.ofNat (x.val.toNat / 64 % 64 + 128) := byteOf (by omega)
  have fourth : d = UInt8.ofNat (x.val.toNat % 64 + 128) := byteOf (by omega)
  exact ⟨x, by rw [encodeFour (by omega), ← first, ← second, ← third, ← fourth]⟩

end Forms

theorem sequenceLength {s : Bytes} (one : Sequence s) : 1 ≤ s.length ∧ s.length ≤ 4 := by
  obtain ⟨form, member, each⟩ := one
  have sizes : ∀ form ∈ forms, 1 ≤ form.length ∧ form.length ≤ 4 := by decide
  rw [each.length_eq]
  exact sizes form member

theorem sequenceEncodes {s : Bytes} (one : Sequence s) : ∃ x, String.utf8EncodeChar x = s := by
  have size := sequenceLength one
  match s, one, size with
  | [a], one, _ => exact oneEncodes one
  | [a, b], two, _ => exact twoEncode two
  | [a, b, c], three, _ => exact threeEncode three
  | [a, b, c, d], four, _ => exact fourEncode four
  | [], _, size => simp at size
  | a :: b :: c :: d :: e :: rest, _, size =>
    simp only [List.length_cons] at size
    omega

theorem encodedSequence (x : Char) : Sequence (String.utf8EncodeChar x) := by
  have top := charLimit x
  have valid : x.val.toNat.isValidChar := x.valid
  simp only [Nat.isValidChar] at valid
  rcases Nat.lt_or_ge 65535 x.val.toNat with four | low
  · rw [encodeFour four, sequenceFour, byteValue (by omega), byteValue (by omega),
      byteValue (by omega), byteValue (by omega)]
    omega
  rcases Nat.lt_or_ge 2047 x.val.toNat with three | low'
  · rw [encodeThree three low, sequenceThree, byteValue (by omega), byteValue (by omega),
      byteValue (by omega)]
    omega
  rcases Nat.lt_or_ge 127 x.val.toNat with two | one
  · rw [encodeTwo two low', sequenceTwo, byteValue (by omega), byteValue (by omega)]
    omega
  · rw [encodeOne one, sequenceOne, byteValue (by omega)]
    omega

theorem wellFormedEncodes {bytes : Bytes} : WellFormed bytes ↔ ∃ cs, bytesOf cs = bytes := by
  constructor
  · intro formed
    induction formed with
    | nil => exact ⟨[], rfl⟩
    | cons first _ ih =>
      obtain ⟨x, here⟩ := sequenceEncodes first
      obtain ⟨cs, later⟩ := ih
      refine ⟨x :: cs, ?_⟩
      rw [← here, ← later]
      rfl
  · intro ⟨cs, encoded⟩
    subst encoded
    induction cs with
    | nil => exact .nil
    | cons x rest ih => exact .cons (encodedSequence x) ih

theorem decodesWellFormed (bytes : Bytes) : (∃ cs, decode bytes = .ok cs) ↔ WellFormed bytes := by
  rw [wellFormedEncodes]
  constructor
  · intro ⟨cs, decoded⟩
    exact ⟨cs, decodeEncoded decoded⟩
  · intro ⟨cs, encoded⟩
    exact ⟨cs, encoded ▸ decodeOf cs⟩

theorem failsIllFormed {bytes : Bytes} {stop : Nat} (stopped : decode bytes = .error stop) :
    ¬WellFormed bytes := by
  intro formed
  obtain ⟨cs, decoded⟩ := (decodesWellFormed bytes).mpr formed
  cases stopped.symm.trans decoded

instance (bytes : Bytes) : Decidable (WellFormed bytes) :=
  match decoded : decode bytes with
  | .ok cs => .isTrue ((decodesWellFormed bytes).mp ⟨cs, decoded⟩)
  | .error _ => .isFalse (failsIllFormed decoded)

theorem decodeFromStops {fuel offset stop : Nat} {done : List Char} {bytes : Bytes}
    (enough : bytes.length ≤ fuel) (stopped : decodeFrom fuel offset done bytes = .error stop) :
    ∃ cs rest, bytes = bytesOf cs ++ rest ∧ stop = offset + (bytesOf cs).length ∧
      first? rest = none := by
  induction fuel generalizing offset done bytes with
  | zero =>
    obtain rfl := List.eq_nil_of_length_eq_zero (Nat.le_zero.mp enough)
    simp [decodeFrom] at stopped
  | succ fuel ih =>
    cases bytes with
    | nil => simp [decodeFrom] at stopped
    | cons b more =>
      simp only [decodeFrom] at stopped
      cases head : first? (b :: more) with
      | none =>
        obtain rfl : offset = stop := by simpa [head] using stopped
        exact ⟨[], b :: more, rfl, rfl, head⟩
      | some p =>
        obtain ⟨x, rest⟩ := p
        simp only [head] at stopped
        have split := firstEncoded head
        have lengths := congrArg List.length split
        have size := String.length_utf8EncodeChar x
        have own := x.utf8Size_pos
        simp only [List.length_append, size] at lengths
        obtain ⟨cs, tail, behind, sum, stuck⟩ := ih (by omega) stopped
        refine ⟨x :: cs, tail, ?_, ?_, stuck⟩
        · rw [split, behind]
          simp [bytesOf]
        · rw [sum]
          simp only [bytesOf, List.flatMap_cons, List.length_append, size]
          omega

theorem encodedShorter {cs ds : List Char} {rest tail : Bytes} (stuck : first? rest = none)
    (same : bytesOf cs ++ rest = bytesOf ds ++ tail) :
    (bytesOf ds).length ≤ (bytesOf cs).length := by
  induction ds generalizing cs with
  | nil => simp [bytesOf]
  | cons d ds ih =>
    have next : first? (bytesOf cs ++ rest) = some (d, bytesOf ds ++ tail) := by
      rw [same]
      simpa [bytesOf] using firstOf d (bytesOf ds ++ tail)
    cases cs with
    | nil =>
      simp only [bytesOf, List.flatMap_nil, List.nil_append] at next
      cases stuck.symm.trans next
    | cons c cs =>
      have own : first? (bytesOf (c :: cs) ++ rest) = some (c, bytesOf cs ++ rest) := by
        simpa [bytesOf] using firstOf c (bytesOf cs ++ rest)
      obtain ⟨rfl, behind⟩ := Prod.mk.inj (Option.some.inj (own.symm.trans next))
      have shorter := ih behind
      simp only [bytesOf, List.flatMap_cons, List.length_append] at shorter ⊢
      omega

def soundLengths (bytes : Bytes) : Set Nat :=
  {n | ∃ good, good <+: bytes ∧ WellFormed good ∧ good.length = n}

theorem decodeStops {bytes : Bytes} {stop : Nat} (stopped : decode bytes = .error stop) :
    IsGreatest (soundLengths bytes) stop := by
  obtain ⟨cs, rest, split, sum, stuck⟩ := decodeFromStops (Nat.le_refl _) stopped
  have length : (bytesOf cs).length = stop := by omega
  refine ⟨⟨bytesOf cs, ⟨rest, split.symm⟩, wellFormedEncodes.mpr ⟨cs, rfl⟩, length⟩, ?_⟩
  intro n ⟨good, ⟨tail, whole⟩, formed, size⟩
  obtain ⟨ds, encoded⟩ := wellFormedEncodes.mp formed
  have same : bytesOf cs ++ rest = bytesOf ds ++ tail := by rw [← split, encoded, whole]
  have shorter := encodedShorter stuck same
  rw [encoded] at shorter
  omega

end Utf8

open Utf8 in
/-- A file is decoded if and only if its bytes are well-formed, and its text has those bytes. If they
are not, nothing is edited, and the offset is the length of the longest part from the beginning that
is well-formed. -/
theorem RuleSet.strictlyDecoded (s : RuleSet) {t : Tree} {e : FileEntry} {bytes : Bytes}
    (reading : t.read e.path = .ok bytes) :
    ((s.editFile t e).error = none ↔ WellFormed bytes) ∧
      (WellFormed bytes → ∃ text : String, bytesOf text.toList = bytes ∧
        s.editFile t e =
          { entry := e, before := text, after := some (s.edit e.relative text).content,
            replacements := (s.edit e.relative text).replacements,
            changed := (s.edit e.relative text).content != text, error := none }) ∧
      (¬WellFormed bytes → ∃ offset, IsGreatest (soundLengths bytes) offset ∧
        s.editFile t e =
          { entry := e, before := "", after := none, replacements := 0, changed := false,
            error := some (.decode offset) }) := by
  have edits := Migration.editing s t e
  generalize s.editFile t e = task at edits ⊢
  cases edits with
  | unread failed => cases reading.symm.trans failed
  | garbled read decoding =>
    cases reading.symm.trans read
    have broken := failsIllFormed decoding
    refine ⟨⟨nofun, fun formed => absurd formed broken⟩, fun formed => absurd formed broken, ?_⟩
    intro _
    exact ⟨_, decodeStops decoding, rfl⟩
  | @text _ cs w read decoding edited =>
    cases reading.symm.trans read
    have formed := (decodesWellFormed bytes).mp ⟨cs, decoding⟩
    have encoded : bytesOf (String.ofList cs).toList = bytes := by
      rw [String.toList_ofList, decodeEncoded decoding]
    subst edited
    exact ⟨⟨fun _ => formed, fun _ => rfl⟩, fun _ => ⟨_, encoded, rfl⟩, fun broken => absurd formed broken⟩

def everyLength : Bytes := [0x61, 0xC3, 0xA9, 0xE2, 0x82, 0xAC, 0xF0, 0x9F, 0x98, 0x80]

def surrogate : Bytes := [0x61, 0xC3, 0xA9, 0xED, 0xA0, 0x80, 0x61]

def mixedFiles : Tree := ⟨.dir [("a", .file everyLength 0o644), ("b", .file surrogate 0o644)], []⟩

theorem RuleSet.strictlyDecodedMixed :
    mixedFiles.read ⟨"a"⟩ = .ok everyLength ∧ Utf8.WellFormed everyLength ∧
      ((⟨⟨globalName, []⟩, []⟩ : RuleSet).editFile mixedFiles ⟨⟨"a"⟩, ⟨"a"⟩⟩).error = none ∧
      mixedFiles.read ⟨"b"⟩ = .ok surrogate ∧ ¬Utf8.WellFormed surrogate ∧
      IsGreatest (Utf8.soundLengths surrogate) 3 := by
  have one : mixedFiles.read ⟨"a"⟩ = .ok everyLength := rfl
  have other : mixedFiles.read ⟨"b"⟩ = .ok surrogate := rfl
  have formed : Utf8.WellFormed everyLength := by decide
  have broken : ¬Utf8.WellFormed surrogate := by decide
  obtain ⟨decodes, -, -⟩ := strictlyDecoded ⟨⟨globalName, []⟩, []⟩ (e := ⟨⟨"a"⟩, ⟨"a"⟩⟩) one
  obtain ⟨-, -, refuses⟩ := strictlyDecoded ⟨⟨globalName, []⟩, []⟩ (e := ⟨⟨"b"⟩, ⟨"b"⟩⟩) other
  obtain ⟨offset, greatest, task⟩ := refuses broken
  have stops : some (FileError.decode offset) = some (.decode 3) := (congrArg FileTask.error task).symm
  obtain rfl : offset = 3 := by simpa using stops
  exact ⟨one, formed, decodes.mpr formed, other, broken, greatest⟩

end Codemod
