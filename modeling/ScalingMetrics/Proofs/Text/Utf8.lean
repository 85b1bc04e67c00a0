import ScalingMetrics.Text.Utf8

/-!
# Reading encoded characters back

The bytes of a character are read one at a time: the first one opens the character, each next one
lies in the bounds that were left for it, and the last one completes the character.
-/

namespace ScalingMetrics.Text

/-! ### One byte -/

theorem utf8DecodeFrom_cons {b : Nat} (hb : b < 256) (pending : Option PartialChar)
    (rest : List UInt8) :
    utf8DecodeFrom pending (.ofNat b :: rest) =
      (readByte pending b).1 ++ utf8DecodeFrom (readByte pending b).2 rest := by
  rw [utf8DecodeFrom, UInt8.toNat_ofNat', Nat.mod_eq_of_lt hb]

theorem readByte_last {value low high b : Nat} (hb : low ≤ b ∧ b ≤ high) :
    readByte (some ⟨value, 1, low, high⟩) b = ([some (.ofNat (value * 64 + b % 64))], none) := by
  simp only [readByte, if_pos hb, Nat.le_refl, if_true]

theorem readByte_inner {value missing low high b : Nat} (hb : low ≤ b ∧ b ≤ high) :
    readByte (some ⟨value, missing + 2, low, high⟩) b =
      ([], some ⟨value * 64 + b % 64, missing + 1, 0x80, 0xBF⟩) := by
  simp only [readByte, if_pos hb, if_neg (show ¬ missing + 2 ≤ 1 by omega), Nat.add_succ_sub_one]

theorem readByte_lead {b : Nat} {p : PartialChar} (hb : 0x80 ≤ b)
    (h : PartialChar.ofLead? b = some p) : readByte none b = ([], some p) := by
  simp only [readByte, readLead, if_neg (Nat.not_lt.mpr hb), h]

theorem readByte_lead_two {v : Nat} (h : 127 < v) (h' : v ≤ 2047) :
    readByte none (v / 64 % 32 + 192) = ([], some ⟨v / 64, 1, 0x80, 0xBF⟩) := by
  apply readByte_lead (by omega)
  rw [PartialChar.ofLead?, if_pos (by omega)]
  congr 2
  omega

/-- The bounds of the second byte leave out no character of three bytes. -/
theorem readByte_lead_three {v : Nat} (h : 2047 < v) (h' : v ≤ 65535)
    (valid : v < 55296 ∨ 57343 < v) :
    ∃ low high, readByte none (v / 4096 % 16 + 224) = ([], some ⟨v / 4096, 2, low, high⟩) ∧
      low ≤ v / 64 % 64 + 128 ∧ v / 64 % 64 + 128 ≤ high := by
  by_cases hfirst : v / 4096 = 0
  · refine ⟨0xA0, 0xBF, readByte_lead (by omega) ?_, by omega, by omega⟩
    simp [PartialChar.ofLead?, hfirst]
  · by_cases hlast : v / 4096 = 13
    · refine ⟨0x80, 0x9F, readByte_lead (by omega) ?_, by omega, by omega⟩
      simp [PartialChar.ofLead?, hlast]
    · refine ⟨0x80, 0xBF, readByte_lead (by omega) ?_, by omega, by omega⟩
      rw [PartialChar.ofLead?, if_neg (by omega), if_neg (by omega), if_neg (by omega),
        if_pos (by omega)]
      congr 2
      omega

/-- The bounds of the second byte leave out no character of four bytes. -/
theorem readByte_lead_four {v : Nat} (h : 65535 < v) (h' : v < 1114112) :
    ∃ low high, readByte none (v / 262144 % 8 + 240) = ([], some ⟨v / 262144, 3, low, high⟩) ∧
      low ≤ v / 4096 % 64 + 128 ∧ v / 4096 % 64 + 128 ≤ high := by
  by_cases hfirst : v / 262144 = 0
  · refine ⟨0x90, 0xBF, readByte_lead (by omega) ?_, by omega, by omega⟩
    simp [PartialChar.ofLead?, hfirst]
  · by_cases hlast : v / 262144 = 4
    · refine ⟨0x80, 0x8F, readByte_lead (by omega) ?_, by omega, by omega⟩
      simp [PartialChar.ofLead?, hlast]
    · refine ⟨0x80, 0xBF, readByte_lead (by omega) ?_, by omega, by omega⟩
      rw [PartialChar.ofLead?, if_neg (by omega), if_neg (by omega), if_neg (by omega),
        if_neg (by omega), if_neg (by omega), if_neg (by omega), if_pos (by omega)]
      congr 2
      omega

/-! ### Characters -/

theorem utf8DecodeFrom_encodeChar (c : Char) (rest : List UInt8) :
    utf8DecodeFrom none (String.utf8EncodeChar c ++ rest) = some c :: utf8DecodeFrom none rest := by
  have valid : c.val.toNat < 55296 ∨ 57343 < c.val.toNat ∧ c.val.toNat < 1114112 := c.valid
  have hc : Char.ofNat c.val.toNat = c := Char.ofNat_toNat c
  generalize hv : c.val.toNat = v at valid hc
  simp only [String.utf8EncodeChar, hv]
  split
  · next h =>
    have hread : readByte none v = ([some c], none) := by
      simp only [readByte, readLead, if_pos (show v < 0x80 by omega), hc]
    rw [List.singleton_append, utf8DecodeFrom_cons (by omega), hread]
    rfl
  split
  · next h h' =>
    rw [List.cons_append, utf8DecodeFrom_cons (by omega), readByte_lead_two (by omega) h',
      List.singleton_append, utf8DecodeFrom_cons (by omega), readByte_last (by omega)]
    have hvalue : v / 64 * 64 + (v % 64 + 128) % 64 = v := by omega
    rw [hvalue, hc]
    rfl
  split
  · next h h' h'' =>
    obtain ⟨low, high, hlead, hbounds⟩ := readByte_lead_three (by omega) h'' (by omega)
    rw [List.cons_append, utf8DecodeFrom_cons (by omega), hlead, List.cons_append,
      utf8DecodeFrom_cons (by omega), readByte_inner hbounds, List.singleton_append,
      utf8DecodeFrom_cons (by omega), readByte_last (by omega)]
    have hvalue : (v / 4096 * 64 + (v / 64 % 64 + 128) % 64) * 64 + (v % 64 + 128) % 64 = v := by
      omega
    rw [hvalue, hc]
    rfl
  · next h h' h'' =>
    obtain ⟨low, high, hlead, hbounds⟩ := readByte_lead_four (v := v) (by omega) (by omega)
    rw [List.cons_append, utf8DecodeFrom_cons (by omega), hlead, List.cons_append,
      utf8DecodeFrom_cons (by omega), readByte_inner hbounds, List.cons_append,
      utf8DecodeFrom_cons (by omega), readByte_inner (by omega), List.singleton_append,
      utf8DecodeFrom_cons (by omega), readByte_last (by omega)]
    have hvalue : ((v / 262144 * 64 + (v / 4096 % 64 + 128) % 64) * 64 +
        (v / 64 % 64 + 128) % 64) * 64 + (v % 64 + 128) % 64 = v := by
      omega
    rw [hvalue, hc]
    rfl

/-- Encoded characters are read back. -/
theorem utf8Decode_encode (cs : List Char) : utf8Decode (utf8Encode cs) = cs.map some := by
  induction cs with
  | nil => rfl
  | cons c cs ih =>
      rw [utf8Decode, utf8Encode, List.flatMap_cons, utf8DecodeFrom_encodeChar]
      exact congrArg (some c :: ·) ih

/-- Encoded characters are well-formed. -/
theorem utf8Decode?_encode (cs : List Char) : utf8Decode? (utf8Encode cs) = some cs := by
  rw [utf8Decode?, utf8Decode_encode]
  induction cs with
  | nil => rfl
  | cons c cs ih => simp_all

end ScalingMetrics.Text
