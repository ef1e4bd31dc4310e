import Codemod.Path
import Codemod.Utf8

/-!
Text and its bytes. A text is known from its bytes, bytes that can be decoded are the encoding of
what they decode to, and texts stand in the order of their bytes.
-/
namespace Codemod

theorem bytesInjective {a b : List Char} (same : bytesOf a = bytesOf b) : a = b := by
  have arrays : a.utf8Encode = b.utf8Encode := congrArg List.toByteArray same
  refine String.ofList_injective (String.toByteArray_inj.mp ?_)
  rw [String.toByteArray_ofList, String.toByteArray_ofList, arrays]

theorem encodeNonempty (c : Char) : String.utf8EncodeChar c ≠ [] := by
  intro nothing
  have size := String.length_utf8EncodeChar c
  rw [nothing] at size
  exact absurd size (Nat.ne_of_lt c.utf8Size_pos)

namespace Utf8

section Encoding

variable {c : Char}

theorem encodeOne (low : c.val.toNat ≤ 127) :
    String.utf8EncodeChar c = [UInt8.ofNat c.val.toNat] := by
  unfold String.utf8EncodeChar
  exact if_pos low

theorem encodeTwo (high : 127 < c.val.toNat) (low : c.val.toNat ≤ 2047) :
    String.utf8EncodeChar c =
      [UInt8.ofNat (c.val.toNat / 64 % 32 + 192), UInt8.ofNat (c.val.toNat % 64 + 128)] := by
  unfold String.utf8EncodeChar
  exact (if_neg (by omega)).trans (if_pos low)

theorem encodeThree (high : 2047 < c.val.toNat) (low : c.val.toNat ≤ 65535) :
    String.utf8EncodeChar c =
      [UInt8.ofNat (c.val.toNat / 4096 % 16 + 224), UInt8.ofNat (c.val.toNat / 64 % 64 + 128),
        UInt8.ofNat (c.val.toNat % 64 + 128)] := by
  unfold String.utf8EncodeChar
  exact (if_neg (by omega)).trans ((if_neg (by omega)).trans (if_pos low))

theorem encodeFour (high : 65535 < c.val.toNat) :
    String.utf8EncodeChar c =
      [UInt8.ofNat (c.val.toNat / 262144 % 8 + 240), UInt8.ofNat (c.val.toNat / 4096 % 64 + 128),
        UInt8.ofNat (c.val.toNat / 64 % 64 + 128), UInt8.ofNat (c.val.toNat % 64 + 128)] := by
  unfold String.utf8EncodeChar
  exact (if_neg (by omega)).trans ((if_neg (by omega)).trans (if_neg (by omega)))

end Encoding

theorem continuedByte {b : UInt8} {v : Nat} (ok : continued? b = some v) :
    b.toNat = v + 128 ∧ v < 64 := by
  simp only [continued?, Bool.and_eq_true, decide_eq_true_eq, Option.ite_none_right_eq_some,
    Option.some.injEq, UInt8.le_iff_toNat_le, UInt8.reduceToNat] at ok
  omega

theorem charOfNat {value : Nat} (valid : value.isValidChar) : (Char.ofNat value).val.toNat = value := by
  unfold Char.ofNat
  rw [dif_pos valid]
  rfl

theorem charValue {least value : Nat} {c : Char} (ok : charFrom? least value = some c) :
    least ≤ value ∧ c.val.toNat = value := by
  simp only [charFrom?, Bool.and_eq_true, decide_eq_true_eq, Option.ite_none_right_eq_some,
    Option.some.injEq] at ok
  obtain ⟨⟨enough, valid⟩, rfl⟩ := ok
  exact ⟨enough, charOfNat valid⟩

theorem byteOf {b : UInt8} {n : Nat} (value : b.toNat = n) : b = UInt8.ofNat n := by
  rw [← value, UInt8.ofNat_toNat]

theorem firstEncoded {bytes rest : Bytes} {c : Char} (ok : first? bytes = some (c, rest)) :
    bytes = String.utf8EncodeChar c ++ rest := by
  cases bytes with
  | nil => simp [first?] at ok
  | cons a more =>
    simp only [first?, UInt8.lt_iff_toNat_lt, UInt8.le_iff_toNat_le, Bool.and_eq_true,
      decide_eq_true_eq, UInt8.reduceToNat] at ok
    split at ok
    · next one =>
      obtain ⟨rfl, rfl⟩ : Char.ofNat a.toNat = c ∧ more = rest := by simpa using ok
      have value : (Char.ofNat a.toNat).val.toNat = a.toNat :=
        charOfNat (.inl (Nat.lt_trans one (by decide)))
      rw [encodeOne (by omega), ← byteOf value.symm]
      rfl
    split at ok
    · next two =>
      split at ok <;> try contradiction
      next b tail =>
      obtain ⟨x, hx, ok⟩ := Option.bind_eq_some_iff.mp ok
      obtain ⟨d, hd, last⟩ := Option.bind_eq_some_iff.mp ok
      obtain ⟨rfl, rfl⟩ : d = c ∧ tail = rest := by simpa using last
      have low := continuedByte hx
      have value := charValue hd
      have first : a = UInt8.ofNat (d.val.toNat / 64 % 32 + 192) := byteOf (by omega)
      have second : b = UInt8.ofNat (d.val.toNat % 64 + 128) := byteOf (by omega)
      rw [encodeTwo (by omega) (by omega), ← first, ← second]
      rfl
    split at ok
    · next three =>
      split at ok <;> try contradiction
      next b e tail =>
      obtain ⟨x, hx, ok⟩ := Option.bind_eq_some_iff.mp ok
      obtain ⟨y, hy, ok⟩ := Option.bind_eq_some_iff.mp ok
      obtain ⟨d, hd, last⟩ := Option.bind_eq_some_iff.mp ok
      obtain ⟨rfl, rfl⟩ : d = c ∧ tail = rest := by simpa using last
      have middle := continuedByte hx
      have low := continuedByte hy
      have value := charValue hd
      have first : a = UInt8.ofNat (d.val.toNat / 4096 % 16 + 224) := byteOf (by omega)
      have second : b = UInt8.ofNat (d.val.toNat / 64 % 64 + 128) := byteOf (by omega)
      have third : e = UInt8.ofNat (d.val.toNat % 64 + 128) := byteOf (by omega)
      rw [encodeThree (by omega) (by omega), ← first, ← second, ← third]
      rfl
    split at ok
    · next four =>
      split at ok <;> try contradiction
      next b e g tail =>
      obtain ⟨x, hx, ok⟩ := Option.bind_eq_some_iff.mp ok
      obtain ⟨y, hy, ok⟩ := Option.bind_eq_some_iff.mp ok
      obtain ⟨z, hz, ok⟩ := Option.bind_eq_some_iff.mp ok
      obtain ⟨d, hd, last⟩ := Option.bind_eq_some_iff.mp ok
      obtain ⟨rfl, rfl⟩ : d = c ∧ tail = rest := by simpa using last
      have high := continuedByte hx
      have middle := continuedByte hy
      have low := continuedByte hz
      have value := charValue hd
      have first : a = UInt8.ofNat (d.val.toNat / 262144 % 8 + 240) := byteOf (by omega)
      have second : b = UInt8.ofNat (d.val.toNat / 4096 % 64 + 128) := byteOf (by omega)
      have third : e = UInt8.ofNat (d.val.toNat / 64 % 64 + 128) := byteOf (by omega)
      have fourth : g = UInt8.ofNat (d.val.toNat % 64 + 128) := byteOf (by omega)
      rw [encodeFour (by omega), ← first, ← second, ← third, ← fourth]
      rfl
    · contradiction

theorem decodeFromEncoded {fuel offset : Nat} {done cs : List Char} {bytes : Bytes}
    (ok : decodeFrom fuel offset done bytes = .ok cs) : bytesOf cs = bytesOf done.reverse ++ bytes := by
  induction fuel generalizing offset done bytes with
  | zero =>
    cases bytes with
    | nil =>
      cases ok
      simp
    | cons b rest => simp [decodeFrom] at ok
  | succ fuel ih =>
    cases bytes with
    | nil =>
      cases ok
      simp
    | cons b more =>
      simp only [decodeFrom] at ok
      cases head : first? (b :: more) with
      | none => simp [head] at ok
      | some p =>
        obtain ⟨c, rest⟩ := p
        simp only [head] at ok
        rw [ih ok, firstEncoded head]
        simp [bytesOf]

theorem decodeEncoded {bytes : Bytes} {cs : List Char} (ok : decode bytes = .ok cs) :
    bytesOf cs = bytes := by
  simpa [bytesOf] using decodeFromEncoded ok

theorem charLimit (c : Char) : c.val.toNat < 1114112 := by
  have valid : c.val.toNat.isValidChar := c.valid
  simp only [Nat.isValidChar] at valid
  omega

theorem sixBits (v : Nat) : v / 64 / 64 = v / 4096 ∧ v / 4096 / 64 = v / 262144 := by
  simp [Nat.div_div_eq_div_mul]

theorem byteValue {n : Nat} (small : n < 256) : (UInt8.ofNat n).toNat = n := by
  rw [UInt8.toNat_ofNat', Nat.mod_eq_of_lt small]

theorem continuedOf {n : Nat} (low : n < 64) : continued? (UInt8.ofNat (n + 128)) = some n := by
  simp only [continued?, UInt8.le_iff_toNat_le, byteValue (show n + 128 < 256 by omega),
    UInt8.reduceToNat]
  rw [if_pos (by simp; omega)]
  simp

theorem charOf {c : Char} {least value : Nat} (same : value = c.val.toNat) (enough : least ≤ value) :
    charFrom? least value = some c := by
  have valid : c.val.toNat.isValidChar := c.valid
  have back : Char.ofNat c.val.toNat = c := Char.ofNat_toNat c
  subst same
  rw [charFrom?, if_pos (by simp only [enough, valid, decide_true, Bool.and_self]), back]

theorem firstOf (c : Char) (rest : Bytes) : first? (String.utf8EncodeChar c ++ rest) = some (c, rest) := by
  have top := charLimit c
  have bits := sixBits c.val.toNat
  rcases Nat.lt_or_ge 65535 c.val.toNat with four | low
  · have lead := byteValue (show c.val.toNat / 262144 % 8 + 240 < 256 by omega)
    have value : (((c.val.toNat / 262144 % 8 + 240 - 240) * 64 + c.val.toNat / 4096 % 64) * 64 +
        c.val.toNat / 64 % 64) * 64 + c.val.toNat % 64 = c.val.toNat := by omega
    rw [encodeFour four]
    simp only [List.cons_append, List.nil_append, first?, UInt8.lt_iff_toNat_lt,
      UInt8.le_iff_toNat_le, lead, UInt8.reduceToNat, Bool.and_eq_true, decide_eq_true_eq]
    rw [if_neg (by omega), if_neg (by omega), if_neg (by omega), if_pos (by omega),
      continuedOf (by omega), continuedOf (by omega), continuedOf (by omega)]
    have char : charFrom? 65536 _ = some c := charOf value (by omega)
    simp only [bind, Option.bind, char]
    rfl
  rcases Nat.lt_or_ge 2047 c.val.toNat with three | low'
  · have lead := byteValue (show c.val.toNat / 4096 % 16 + 224 < 256 by omega)
    have value : ((c.val.toNat / 4096 % 16 + 224 - 224) * 64 + c.val.toNat / 64 % 64) * 64 +
        c.val.toNat % 64 = c.val.toNat := by omega
    rw [encodeThree three low]
    simp only [List.cons_append, List.nil_append, first?, UInt8.lt_iff_toNat_lt,
      UInt8.le_iff_toNat_le, lead, UInt8.reduceToNat, Bool.and_eq_true, decide_eq_true_eq]
    rw [if_neg (by omega), if_neg (by omega), if_pos (by omega), continuedOf (by omega),
      continuedOf (by omega)]
    have char : charFrom? 2048 _ = some c := charOf value (by omega)
    simp only [bind, Option.bind, char]
    rfl
  rcases Nat.lt_or_ge 127 c.val.toNat with two | one
  · have lead := byteValue (show c.val.toNat / 64 % 32 + 192 < 256 by omega)
    have value : (c.val.toNat / 64 % 32 + 192 - 192) * 64 + c.val.toNat % 64 = c.val.toNat := by omega
    rw [encodeTwo two low']
    simp only [List.cons_append, List.nil_append, first?, UInt8.lt_iff_toNat_lt,
      UInt8.le_iff_toNat_le, lead, UInt8.reduceToNat, Bool.and_eq_true, decide_eq_true_eq]
    rw [if_neg (by omega), if_pos (by omega), continuedOf (by omega)]
    have char : charFrom? 128 _ = some c := charOf value (by omega)
    simp only [bind, Option.bind, char]
    rfl
  · have lead := byteValue (show c.val.toNat < 256 by omega)
    have back : Char.ofNat c.val.toNat = c := Char.ofNat_toNat c
    rw [encodeOne one]
    simp only [List.cons_append, List.nil_append, first?, UInt8.lt_iff_toNat_lt, lead,
      UInt8.reduceToNat]
    rw [if_pos (by omega), back]

theorem decodeFromOf (fuel offset : Nat) (done cs : List Char) (enough : cs.length ≤ fuel) :
    decodeFrom fuel offset done (bytesOf cs) = .ok (done.reverse ++ cs) := by
  induction cs generalizing fuel offset done with
  | nil => simp [bytesOf, decodeFrom]
  | cons c rest ih =>
    cases fuel with
    | zero => simp at enough
    | succ fuel =>
      have bytes : bytesOf (c :: rest) = String.utf8EncodeChar c ++ bytesOf rest := rfl
      obtain ⟨b, more, head⟩ := List.exists_cons_of_ne_nil (encodeNonempty c)
      rw [bytes, head, List.cons_append, decodeFrom, ← List.cons_append, ← head, firstOf]
      · simpa using ih fuel (offset + c.utf8Size) (c :: done) (by simpa using enough)
      · simp

theorem decodeOf (cs : List Char) : decode (bytesOf cs) = .ok cs := by
  refine decodeFromOf _ 0 [] cs ?_
  induction cs with
  | nil => simp
  | cons c rest ih =>
    have own := c.utf8Size_pos
    simp only [bytesOf, List.flatMap_cons, List.length_append, List.length_cons,
      String.length_utf8EncodeChar] at ih ⊢
    omega

theorem consLt {a b : Nat} {s r : Bytes} (ha : a < 256) (hb : b < 256)
    (lt : a < b ∨ a = b ∧ s < r) : UInt8.ofNat a :: s < UInt8.ofNat b :: r := by
  rw [List.cons_lt_cons_iff, UInt8.lt_iff_toNat_lt, ← UInt8.toNat_inj, UInt8.toNat_ofNat',
    UInt8.toNat_ofNat', Nat.mod_eq_of_lt ha, Nat.mod_eq_of_lt hb]
  exact lt

/- The first bytes tell encodings of different lengths apart; those of the same length are compared
byte by byte, as the digits of a number are. -/
theorem encodeLt {a b : Char} (lt : a.val.toNat < b.val.toNat) (s r : Bytes) :
    String.utf8EncodeChar a ++ s < String.utf8EncodeChar b ++ r := by
  have top := charLimit b
  have bits := sixBits a.val.toNat
  have others := sixBits b.val.toNat
  generalize ha : a.val.toNat = v at *
  generalize hb : b.val.toNat = w at *
  rcases Nat.lt_or_ge 65535 v with four | low
  · rw [encodeFour (by omega), encodeFour (by omega), ha, hb]
    refine consLt (by omega) (by omega) ?_
    rcases Nat.lt_or_ge (v / 262144) (w / 262144) with first | same
    · exact .inl (by omega)
    refine .inr ⟨by omega, consLt (by omega) (by omega) ?_⟩
    rcases Nat.lt_or_ge (v / 4096) (w / 4096) with second | same
    · exact .inl (by omega)
    refine .inr ⟨by omega, consLt (by omega) (by omega) ?_⟩
    rcases Nat.lt_or_ge (v / 64) (w / 64) with third | same
    · exact .inl (by omega)
    · exact .inr ⟨by omega, consLt (by omega) (by omega) (.inl (by omega))⟩
  rcases Nat.lt_or_ge 65535 w with longer | top
  · rw [encodeFour (c := b) (by omega), hb]
    rcases Nat.lt_or_ge 2047 v with three | low
    · rw [encodeThree (by omega) (by omega), ha]
      exact consLt (by omega) (by omega) (.inl (by omega))
    rcases Nat.lt_or_ge 127 v with two | one
    · rw [encodeTwo (by omega) (by omega), ha]
      exact consLt (by omega) (by omega) (.inl (by omega))
    · rw [encodeOne (by omega), ha]
      exact consLt (by omega) (by omega) (.inl (by omega))
  rcases Nat.lt_or_ge 2047 v with three | low
  · rw [encodeThree (by omega) (by omega), encodeThree (by omega) (by omega), ha, hb]
    refine consLt (by omega) (by omega) ?_
    rcases Nat.lt_or_ge (v / 4096) (w / 4096) with first | same
    · exact .inl (by omega)
    refine .inr ⟨by omega, consLt (by omega) (by omega) ?_⟩
    rcases Nat.lt_or_ge (v / 64) (w / 64) with second | same
    · exact .inl (by omega)
    · exact .inr ⟨by omega, consLt (by omega) (by omega) (.inl (by omega))⟩
  rcases Nat.lt_or_ge 2047 w with longer | top
  · rw [encodeThree (c := b) (by omega) (by omega), hb]
    rcases Nat.lt_or_ge 127 v with two | one
    · rw [encodeTwo (by omega) (by omega), ha]
      exact consLt (by omega) (by omega) (.inl (by omega))
    · rw [encodeOne (by omega), ha]
      exact consLt (by omega) (by omega) (.inl (by omega))
  rcases Nat.lt_or_ge 127 w with longer | top
  · rw [encodeTwo (c := b) (by omega) (by omega), hb]
    rcases Nat.lt_or_ge 127 v with two | one
    · rw [encodeTwo (by omega) (by omega), ha]
      refine consLt (by omega) (by omega) ?_
      rcases Nat.lt_or_ge (v / 64) (w / 64) with first | same
      · exact .inl (by omega)
      · exact .inr ⟨by omega, consLt (by omega) (by omega) (.inl (by omega))⟩
    · rw [encodeOne (by omega), ha]
      exact consLt (by omega) (by omega) (.inl (by omega))
  · rw [encodeOne (by omega), encodeOne (by omega), ha, hb]
    exact consLt (by omega) (by omega) (.inl lt)

end Utf8

theorem textBytesLt {a b : List Char} (lt : Path.compareText a b = .lt) : bytesOf a < bytesOf b := by
  induction a generalizing b with
  | nil =>
    cases b with
    | nil => simp [Path.compareText] at lt
    | cons d rest =>
      obtain ⟨x, more, bytes⟩ := List.exists_cons_of_ne_nil (encodeNonempty d)
      simp [bytesOf, bytes]
  | cons c as ih =>
    cases b with
    | nil => simp [Path.compareText] at lt
    | cons d bs =>
      simp only [Path.compareText, Ordering.then_eq_lt, Nat.compare_eq_lt, Nat.compare_eq_eq] at lt
      simp only [bytesOf, List.flatMap_cons]
      rcases lt with first | ⟨same, later⟩
      · exact Utf8.encodeLt first _ _
      · obtain rfl : c = d := Char.ext (UInt32.toNat_inj.mp same)
        exact List.append_left_lt (ih later)

end Codemod
