import Bindery.Text.Utf8

/-!
# The bytes of names

A name is its bytes, and the text that stands for a name has them (`bytesOf_canonicalName`): what
bytes spell is read in sequences, and a sequence without an offence is the encoding of the
character that it writes (`nameBytes_sequence`), while every other byte becomes the surrogate
that stands for it. So names that are told apart by their bytes are told apart in the file tree.
-/

namespace Bindery.Text

/-- The bytes of a name. -/
def bytesOf (name : Text) : List UInt8 := name.flatMap nameBytes

@[simp] theorem bytesOf_append (s t : Text) : bytesOf (s ++ t) = bytesOf s ++ bytesOf t := by
  rw [bytesOf, List.flatMap_append, bytesOf, bytesOf]

/-! ## The bytes of a character -/

/-- Going through the bytes from a place on collects those that are left. -/
theorem byteArray_toList_loop (front rest before : List UInt8) :
    ByteArray.toList.loop (front ++ rest).toByteArray front.length before =
      before.reverse ++ rest := by
  induction rest generalizing front before with
  | nil =>
    rw [ByteArray.toList.loop, if_neg (by simp), List.append_nil]
  | cons b rest ih =>
    have there : (front ++ b :: rest).toByteArray.get! front.length = b := by
      simp [ByteArray.get!]
    have gone := ih (front ++ [b]) (b :: before)
    rw [List.append_assoc, List.length_append, List.reverse_cons, List.append_assoc] at gone
    rw [ByteArray.toList.loop, if_pos (by simp), there]
    exact gone

theorem byteArray_toList (bytes : List UInt8) : bytes.toByteArray.toList = bytes :=
  byteArray_toList_loop [] bytes []

theorem nameBytes_char (c : Char) : nameBytes (.char c) = String.utf8EncodeChar c := by
  rw [nameBytes, String.toUTF8_eq_toByteArray, String.toByteArray_singleton,
    List.utf8Encode_singleton, byteArray_toList]

theorem val_ofNat {n : Nat} (h : n.isValidChar) : (Char.ofNat n).val.toNat = n := by
  unfold Char.ofNat
  rw [dif_pos h]
  rfl

/-! ## Sequences -/

theorem isContinuation_iff {b : UInt8} : isContinuation b ↔ 0x80 ≤ b.toNat ∧ b.toNat < 0xC0 := by
  simp [isContinuation]

/-- What may stand second: fewer bytes after some first ones, so that no character is written in
two ways, and no surrogate and nothing beyond the last character at all. -/
theorem mayFollow_iff {a b : UInt8} :
    mayFollow a b ↔ (0x80 ≤ b.toNat ∧ b.toNat < 0xC0) ∧ (a.toNat = 0xE0 → 0xA0 ≤ b.toNat) ∧
      (a.toNat = 0xED → b.toNat < 0xA0) ∧ (a.toNat = 0xF0 → 0x90 ≤ b.toNat) ∧
      (a.toNat = 0xF4 → b.toNat < 0x90) := by
  rw [mayFollow, Bool.and_eq_true, isContinuation_iff]
  repeat' split
  all_goals
    simp
    omega

/-- The bytes of one character, by their number. -/
inductive Sequence : List UInt8 → Prop where
  | one {a : UInt8} (h : a.toNat < 0x80) : Sequence [a]
  | two {a b : UInt8} (h : 0xC2 ≤ a.toNat ∧ a.toNat < 0xE0) (hb : isContinuation b) :
      Sequence [a, b]
  | three {a b c : UInt8} (h : 0xE0 ≤ a.toNat ∧ a.toNat < 0xF0) (hb : mayFollow a b)
      (hc : isContinuation c) : Sequence [a, b, c]
  | four {a b c d : UInt8} (h : 0xF0 ≤ a.toNat ∧ a.toNat < 0xF5) (hb : mayFollow a b)
      (hc : isContinuation c) (hd : isContinuation d) : Sequence [a, b, c, d]

theorem Sequence.length_pos {seq : List UInt8} (h : Sequence seq) : 0 < seq.length := by
  cases h <;> exact Nat.succ_pos _

theorem announced?_cases (a : UInt8) :
    announced? a = none ∧ 0x80 ≤ a.toNat ∨ announced? a = some 1 ∧ a.toNat < 0x80 ∨
      announced? a = some 2 ∧ 0xC2 ≤ a.toNat ∧ a.toNat < 0xE0 ∨
      announced? a = some 3 ∧ 0xE0 ≤ a.toNat ∧ a.toNat < 0xF0 ∨
      announced? a = some 4 ∧ 0xF0 ≤ a.toNat ∧ a.toNat < 0xF5 := by
  simp only [announced?]
  repeat' split
  all_goals
    simp
    omega

/-- Bytes without an offence at their start begin with a sequence. -/
theorem sequence_of_ok {a : UInt8} {rest after : List UInt8}
    (h : sequenceOffence (a :: rest) = .ok after) :
    ∃ seq, a :: rest = seq ++ after ∧ Sequence seq := by
  unfold sequenceOffence at h
  obtain ⟨ha, -⟩ | ⟨ha, hr⟩ | longer := announced?_cases a
  · simp [ha] at h
  · simp only [ha, Except.ok.injEq] at h
    exact ⟨[a], by simp [h], .one hr⟩
  -- A longer sequence: the second byte first, the others one after another.
  cases rest with
  | nil => rcases longer with ⟨ha, -⟩ | ⟨ha, -⟩ | ⟨ha, -⟩ <;> simp [ha] at h
  | cons b rest =>
    have hb : mayFollow a b := by
      cases hb : mayFollow a b with
      | true => rfl
      | false => rcases longer with ⟨ha, -⟩ | ⟨ha, -⟩ | ⟨ha, -⟩ <;> simp [ha, hb] at h
    obtain ⟨ha, hr⟩ | longer := longer
    · simp only [ha, hb, Bool.not_true, Bool.false_eq_true, if_false, if_true,
        Except.ok.injEq] at h
      exact ⟨[a, b], by simp [h], .two hr (isContinuation_iff.2 (mayFollow_iff.1 hb).1)⟩
    cases rest with
    | nil => rcases longer with ⟨ha, -⟩ | ⟨ha, -⟩ <;> simp [ha, hb] at h
    | cons c rest =>
      have hc : isContinuation c := by
        cases hc : isContinuation c with
        | true => rfl
        | false => rcases longer with ⟨ha, -⟩ | ⟨ha, -⟩ <;> simp [ha, hb, hc] at h
      obtain ⟨ha, hr⟩ | ⟨ha, hr⟩ := longer
      · simp [ha, hb, hc] at h
        exact ⟨[a, b, c], by simp [h], .three hr hb hc⟩
      cases rest with
      | nil => simp [ha, hb, hc] at h
      | cons d rest =>
        by_cases hd : isContinuation d
        · simp [ha, hb, hc, hd] at h
          exact ⟨[a, b, c, d], by simp [h], .four hr hb hc hd⟩
        · simp [ha, hb, hc, hd] at h

theorem offence_of_error {a : UInt8} {rest : List UInt8} {e : Nat × EncodingProblem}
    (h : sequenceOffence (a :: rest) = .error e) : 0x80 ≤ a.toNat := by
  obtain ⟨-, ha⟩ | ⟨ha, -⟩ | ⟨-, ha, -⟩ | ⟨-, ha, -⟩ | ⟨-, ha, -⟩ := announced?_cases a
  · exact ha
  · simp [sequenceOffence, ha] at h
  all_goals omega

/-! ## What sequences write -/

/-- The bytes of the character of a number. -/
theorem nameBytes_ofNat {n : Nat} (h : n < 0xD800 ∨ 0xDFFF < n ∧ n < 0x110000) :
    nameBytes (.ofNat n) = String.utf8EncodeChar (Char.ofNat n) := by
  have hn : ¬(0xD800 ≤ n ∧ n < 0xE000) := by omega
  rw [CodePoint.ofNat, dif_neg hn, nameBytes_char]

theorem toUInt8_eq {a : UInt8} {n : Nat} (h : a.toNat = n) : UInt8.ofNat n = a := by
  rw [← h, UInt8.ofNat_toNat]

/-- A sequence is what encodes the character that it writes. -/
theorem nameBytes_sequence {seq : List UInt8} (h : Sequence seq) :
    nameBytes (.ofNat (sequenceNumber seq)) = seq := by
  cases h with
  | @one a h =>
    have hn : sequenceNumber [a] = a.toNat := by simp [sequenceNumber, h]
    rw [hn, nameBytes_ofNat (by omega), String.utf8EncodeChar, val_ofNat (.inl (by omega))]
    simp only [show a.toNat ≤ 0x7f by omega, if_true, toUInt8_eq rfl]
  | @two a b h hb =>
    obtain ⟨h1, h2⟩ := h
    rw [isContinuation_iff] at hb
    have hn : sequenceNumber [a, b] = (a.toNat - 0xC0) * 64 + (b.toNat - 0x80) := by
      simp [sequenceNumber, show ¬a.toNat < 0x80 by omega, h2]
    rw [hn, nameBytes_ofNat (by omega), String.utf8EncodeChar, val_ofNat (.inl (by omega))]
    rw [if_neg (by omega), if_pos (by omega), toUInt8_eq (a := a) (by omega),
      toUInt8_eq (a := b) (by omega)]
  | @three a b c h hb hc =>
    obtain ⟨h1, h2⟩ := h
    rw [mayFollow_iff] at hb
    rw [isContinuation_iff] at hc
    have hn : sequenceNumber [a, b, c] =
        (a.toNat - 0xE0) * 4096 + (b.toNat - 0x80) * 64 + (c.toNat - 0x80) := by
      simp [sequenceNumber, show ¬a.toNat < 0x80 by omega, show ¬a.toNat < 0xE0 by omega, h2]
      omega
    rw [hn, nameBytes_ofNat (by omega), String.utf8EncodeChar, val_ofNat (by
      unfold Nat.isValidChar
      omega)]
    rw [if_neg (by omega), if_neg (by omega), if_pos (by omega), toUInt8_eq (a := a) (by omega),
      toUInt8_eq (a := b) (by omega), toUInt8_eq (a := c) (by omega)]
  | @four a b c d h hb hc hd =>
    obtain ⟨h1, h2⟩ := h
    rw [mayFollow_iff] at hb
    rw [isContinuation_iff] at hc hd
    have hn : sequenceNumber [a, b, c, d] = (a.toNat - 0xF0) * 262144 +
        (b.toNat - 0x80) * 4096 + (c.toNat - 0x80) * 64 + (d.toNat - 0x80) := by
      simp [sequenceNumber, show ¬a.toNat < 0x80 by omega, show ¬a.toNat < 0xE0 by omega,
        show ¬a.toNat < 0xF0 by omega]
      omega
    rw [hn, nameBytes_ofNat (by omega), String.utf8EncodeChar, val_ofNat (by
      unfold Nat.isValidChar
      omega)]
    rw [if_neg (by omega), if_neg (by omega), if_neg (by omega), toUInt8_eq (a := a) (by omega),
      toUInt8_eq (a := b) (by omega), toUInt8_eq (a := c) (by omega),
      toUInt8_eq (a := d) (by omega)]

/-! ## Names -/

theorem nameBytes_surrogate {n : Fin 0x800} (h : 0x480 ≤ n.val ∧ n.val < 0x500) :
    nameBytes (.surrogate n) = [UInt8.ofNat (n.val - 0x400)] := by
  simp [nameBytes, rawByte?, h]

/-- A byte outside ASCII is that of the surrogate that stands for it. -/
theorem nameBytes_ofRawByte {a : UInt8} (h : 0x80 ≤ a.toNat) : nameBytes (ofRawByte a) = [a] := by
  have ha : a.toNat < 256 := a.toNat_lt
  have hn : 0xD800 ≤ 0xDC00 + a.toNat ∧ 0xDC00 + a.toNat < 0xE000 := by omega
  rw [ofRawByte, CodePoint.ofNat, dif_pos hn, nameBytes_surrogate (by dsimp only; omega),
    toUInt8_eq (a := a) (by dsimp only; omega)]

/-- The text of a name's bytes has these bytes. -/
theorem bytesOf_nameOf {fuel : Nat} {bytes : List UInt8} (enough : bytes.length ≤ fuel) :
    bytesOf (nameOf fuel bytes) = bytes := by
  induction fuel generalizing bytes with
  | zero =>
    obtain rfl := List.eq_nil_of_length_eq_zero (Nat.le_zero.1 enough)
    rfl
  | succ fuel ih =>
    cases bytes with
    | nil => rfl
    | cons a rest =>
      have enough' : rest.length ≤ fuel := by simpa using enough
      cases hs : sequenceOffence (a :: rest) with
      | error e =>
        simp only [bytesOf] at ih ⊢
        simp only [nameOf, hs, List.flatMap_cons]
        rw [nameBytes_ofRawByte (offence_of_error hs), ih enough', List.singleton_append]
      | ok after =>
        obtain ⟨seq, hseq, sequence⟩ := sequence_of_ok hs
        have total : rest.length + 1 = seq.length + after.length := by
          rw [← List.length_append, ← hseq, List.length_cons]
        have short : after.length ≤ fuel := by
          have := sequence.length_pos
          omega
        have taken : (a :: rest).take (rest.length + 1 - after.length) = seq := by
          rw [hseq, total, Nat.add_sub_cancel, List.take_left]
        simp only [bytesOf] at ih ⊢
        simp only [nameOf, hs, List.flatMap_cons]
        rw [taken, nameBytes_sequence sequence, ih short, hseq]

/-- The text that stands for a name has the bytes of the name. -/
theorem bytesOf_canonicalName (name : Text) : bytesOf (canonicalName name) = bytesOf name := by
  unfold canonicalName
  split
  · exact bytesOf_nameOf (Nat.le_refl _)
  · rfl

end Bindery.Text
