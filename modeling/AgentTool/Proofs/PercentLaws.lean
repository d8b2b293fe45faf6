import AgentTool.Text.Percent
import AgentTool.Url.Reader

/-!
# What percent encoding keeps

The two encodings write any text with letters, digits, the marks `-_.~*+` and
triplets `%HH`, so nothing that they write is a delimiter of an address; and
what they write is decoded to the bytes of the text.

| encoding | space | decoded by |
| --- | --- | --- |
| segment | `%20` | reading triplets |
| form field | `+` | reading `+` as a space, then triplets |
-/

namespace AgentTool
namespace Text

/-- The characters that an encoded text has outside its triplets. -/
def isKept (c : Char) : Bool := c.isAlphanum || ['-', '_', '.', '~', '*', '+'].contains c

/-- A text of kept characters and triplets. -/
inductive Escaped : List Char → Prop where
  | nil : Escaped []
  | kept {c : Char} {cs : List Char} : isKept c = true → Escaped cs → Escaped (c :: cs)
  | triplet {h l : Char} {cs : List Char} : Address.isHex h = true → Address.isHex l = true →
      Escaped cs → Escaped ('%' :: h :: l :: cs)

/-- The bytes of a segment whose triplets are read. -/
def segmentBytes (cs : List Char) : List UInt8 := Url.percentDecoded (utf8 cs)

/-- The bytes of a form field, where a plus sign is a space. -/
def formBytes (cs : List Char) : List UInt8 :=
  segmentBytes (cs.map fun c => if c == '+' then ' ' else c)

/-- Two escaped texts are one. -/
theorem Escaped.append {cs ds : List Char} (hc : Escaped cs) (hd : Escaped ds) :
    Escaped (cs ++ ds) := by
  induction hc with
  | nil => exact hd
  | kept h _ ih => exact .kept h ih
  | triplet hh hl _ ih => exact .triplet hh hl ih

/-- What is written escaped for each item is escaped as a whole. -/
theorem Escaped.flatMap {α : Type} {write : α → List Char} (h : ∀ a, Escaped (write a))
    (as : List α) : Escaped (as.flatMap write) := by
  induction as with
  | nil => exact .nil
  | cons a as ih => exact (h a).append ih

/-- A character that is neither kept, nor a hexadecimal digit, nor the mark of a triplet does
not occur. -/
theorem Escaped.not_mem {c : Char} (hk : isKept c = false) (hx : Address.isHex c = false)
    (hp : c ≠ '%') {cs : List Char} (h : Escaped cs) : c ∉ cs := by
  induction h with
  | nil => simp
  | kept hc _ ih =>
    rintro (_ | ⟨_, hm⟩)
    · simp [hk] at hc
    · exact ih hm
  | triplet hh hl _ ih =>
    rintro (_ | ⟨_, _ | ⟨_, _ | ⟨_, hm⟩⟩⟩)
    · exact hp rfl
    · simp [hx] at hh
    · simp [hx] at hl
    · exact ih hm

/-! ## Bytes of ASCII -/

/-- An empty text has no bytes. -/
@[simp] theorem utf8_nil : utf8 [] = [] := rfl

/-- A number of seven bits is the code of its character. -/
theorem toNat_ofNat {n : Nat} (h : n < 128) : (Char.ofNat n).toNat = n := by
  rw [Char.ofNat, dif_pos (.inl (by omega))]
  rfl

/-- A character of seven bits is one byte, which is its code. -/
theorem utf8_cons_ascii {c : Char} (h : c.toNat < 128) (cs : List Char) :
    utf8 (c :: cs) = UInt8.ofNat c.toNat :: utf8 cs := by
  have hc : String.utf8EncodeChar c = [UInt8.ofNat c.toNat] := by
    unfold String.utf8EncodeChar
    rw [if_pos (by show c.toNat ≤ 0x7f; omega)]
    rfl
  simp [utf8, hc]

/-- The character of an ASCII byte is written as that byte. -/
theorem utf8_cons_byte {b : UInt8} (h : b.toNat < 128) (cs : List Char) :
    utf8 (Char.ofNat b.toNat :: cs) = b :: utf8 cs := by
  rw [utf8_cons_ascii (by rwa [toNat_ofNat h]), toNat_ofNat h, UInt8.ofNat_toNat]

/-- An ASCII character is read back from its byte. -/
theorem ofNat_byte {c : Char} (h : c.toNat < 128) : Char.ofNat (UInt8.ofNat c.toNat).toNat = c := by
  have hb : (UInt8.ofNat c.toNat).toNat = c.toNat := by simp; omega
  rw [hb, Char.ofNat_toNat]

/-! ## Triplets -/

/-- A byte that opens no triplet stands for itself. -/
theorem percentDecoded_cons {b : UInt8} (h : b ≠ 37) (bs : List UInt8) :
    Url.percentDecoded (b :: bs) = b :: Url.percentDecoded bs := by
  rcases bs with _ | ⟨c, _ | ⟨d, bs⟩⟩
  · rfl
  · rfl
  · simp [Url.percentDecoded, h]

/-- The digits of a byte are hexadecimal, are ASCII and are not plus signs. -/
theorem upperHexDigit_spec : ∀ n < 16,
    Address.isHex (upperHexDigit n) = true ∧ (upperHexDigit n).toNat < 128 ∧
      upperHexDigit n ≠ '+' := by
  decide

/-- Two digits are read as the number that they write. -/
theorem number_upperHexDigit : ∀ n < 16, ∀ m < 16,
    Address.number 16 [upperHexDigit n, upperHexDigit m] = 16 * n + m := by
  decide +kernel

/-- A triplet is escaped. -/
theorem percentByte_escaped (b : UInt8) : Escaped (percentByte b) :=
  have hb := b.toNat_lt
  .triplet (upperHexDigit_spec _ (by omega)).1 (upperHexDigit_spec _ (by omega)).1 .nil

/-- **A triplet is read as the byte that it writes.** -/
theorem segmentBytes_percentByte (b : UInt8) (cs : List Char) :
    segmentBytes (percentByte b ++ cs) = b :: segmentBytes cs := by
  have hb := b.toNat_lt
  obtain ⟨hh, hha, -⟩ := upperHexDigit_spec (b.toNat / 16) (by omega)
  obtain ⟨hl, hla, -⟩ := upperHexDigit_spec (b.toNat % 16) (by omega)
  have hn := number_upperHexDigit (b.toNat / 16) (by omega) (b.toNat % 16) (by omega)
  have hu : utf8 (percentByte b ++ cs) =
      37 :: UInt8.ofNat (upperHexDigit (b.toNat / 16)).toNat ::
        UInt8.ofNat (upperHexDigit (b.toNat % 16)).toNat :: utf8 cs := by
    rw [← utf8_cons_ascii hla, ← utf8_cons_ascii hha]
    exact utf8_cons_ascii (by decide) _
  have hd : Char.ofNat (UInt8.ofNat (upperHexDigit (b.toNat / 16)).toNat).toNat =
      upperHexDigit (b.toNat / 16) := ofNat_byte hha
  have ld : Char.ofNat (UInt8.ofNat (upperHexDigit (b.toNat % 16)).toNat).toNat =
      upperHexDigit (b.toNat % 16) := ofNat_byte hla
  unfold segmentBytes
  rw [hu, Url.percentDecoded]
  simp only [hd, ld, hh, hl, hn, beq_self_eq_true, Bool.and_self, if_true]
  rw [show 16 * (b.toNat / 16) + b.toNat % 16 = b.toNat by omega, UInt8.ofNat_toNat]

/-! ## What is kept -/

/-- What either encoding keeps are kept characters of ASCII. -/
theorem isKept_ofNat : ∀ n < 256, isUnreserved (UInt8.ofNat n) = true ∨
    isFormSafe (UInt8.ofNat n) = true →
      n < 128 ∧ n ≠ 37 ∧ n ≠ 43 ∧ isKept (Char.ofNat n) = true := by
  decide +kernel

/-- A byte that either encoding keeps is a kept character of ASCII, and neither a percent sign nor a
plus sign. -/
theorem keeps_spec {b : UInt8} (h : isUnreserved b = true ∨ isFormSafe b = true) :
    b.toNat < 128 ∧ b ≠ 37 ∧ Char.ofNat b.toNat ≠ '+' ∧ isKept (Char.ofNat b.toNat) = true := by
  obtain ⟨ha, hp, hs, hk⟩ := isKept_ofNat b.toNat b.toNat_lt (by rwa [UInt8.ofNat_toNat])
  refine ⟨ha, fun he => hp (by rw [he]; rfl), fun he => hs ?_, hk⟩
  rw [← toNat_ofNat ha, he]
  rfl

/-- A kept character stands for itself. -/
theorem segmentBytes_kept {b : UInt8} (h : isUnreserved b = true ∨ isFormSafe b = true)
    (cs : List Char) : segmentBytes (Char.ofNat b.toNat :: cs) = b :: segmentBytes cs := by
  obtain ⟨ha, hp, -, -⟩ := keeps_spec h
  unfold segmentBytes
  rw [utf8_cons_byte ha, percentDecoded_cons hp]

/-! ## Segments -/

/-- A segment is written escaped. -/
theorem encodeSegment_escaped (cs : List Char) : Escaped (encodeSegment cs) := by
  refine .flatMap (fun b => ?_) (utf8 cs)
  unfold segmentByte
  split
  · rename_i hb
    exact .kept (keeps_spec (.inl hb)).2.2.2 .nil
  · exact percentByte_escaped b

/-- **A segment is read as the text that it writes.** -/
theorem segmentBytes_encodeSegment (cs : List Char) :
    segmentBytes (encodeSegment cs) = utf8 cs := by
  unfold encodeSegment
  induction utf8 cs with
  | nil => rfl
  | cons b bs ih =>
    rw [List.flatMap_cons, segmentByte]
    split
    · rename_i hb
      rw [List.singleton_append, segmentBytes_kept (.inl hb), ih]
    · rw [segmentBytes_percentByte, ih]

/-! ## Form fields -/

/-- A form field is written escaped. -/
theorem encodeForm_escaped (cs : List Char) : Escaped (encodeForm cs) := by
  refine .flatMap (fun b => ?_) (utf8 cs)
  unfold formByte
  split
  · rename_i hb
    exact .kept (keeps_spec (.inr hb)).2.2.2 .nil
  split
  · exact .kept (by decide) .nil
  · exact percentByte_escaped b

/-- A kept character is not a plus sign. -/
theorem formBytes_kept {b : UInt8} (h : isFormSafe b = true) (cs : List Char) :
    formBytes (Char.ofNat b.toNat :: cs) = b :: formBytes cs := by
  have hs : Char.ofNat b.toNat ≠ '+' := (keeps_spec (.inr h)).2.2.1
  unfold formBytes
  rw [List.map_cons, if_neg (by simpa using hs), segmentBytes_kept (.inr h)]

/-- A plus sign in a form field is read as a space. -/
theorem formBytes_plus (cs : List Char) : formBytes ('+' :: cs) = 32 :: formBytes cs := by
  unfold formBytes segmentBytes
  rw [List.map_cons, if_pos (by decide), utf8_cons_ascii (by decide),
    percentDecoded_cons (by decide)]
  rfl

/-- A triplet holds no plus sign. -/
theorem formBytes_percentByte (b : UInt8) (cs : List Char) :
    formBytes (percentByte b ++ cs) = b :: formBytes cs := by
  have hb := b.toNat_lt
  have hh := (upperHexDigit_spec (b.toNat / 16) (by omega)).2.2
  have hl := (upperHexDigit_spec (b.toNat % 16) (by omega)).2.2
  have hp : (percentByte b).map (fun c => if c == '+' then ' ' else c) = percentByte b := by
    simp [percentByte, hh, hl]
  unfold formBytes
  rw [List.map_append, hp, segmentBytes_percentByte]

/-- **A form field is read as the text that it writes.** -/
theorem formBytes_encodeForm (cs : List Char) : formBytes (encodeForm cs) = utf8 cs := by
  unfold encodeForm
  induction utf8 cs with
  | nil => rfl
  | cons b bs ih =>
    rw [List.flatMap_cons, formByte]
    split
    · rename_i hb
      rw [List.singleton_append, formBytes_kept hb, ih]
    split
    · rename_i hb
      obtain rfl : b = 32 := by simpa using hb
      rw [List.singleton_append, formBytes_plus, ih]
    · rw [formBytes_percentByte, ih]

end Text
end AgentTool
