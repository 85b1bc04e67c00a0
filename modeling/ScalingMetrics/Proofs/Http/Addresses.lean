import ScalingMetrics.Proofs.Http.Answers
import ScalingMetrics.Proofs.Text.Utf8

/-!
# Addresses of paths

Every path to values of objects has an address: the bytes of the path can all be escaped.
-/

namespace ScalingMetrics

namespace Http

open Text

/-! ### Escapes -/

/-- A byte as an escape. -/
def escapeByte (b : UInt8) : List Char :=
  ['%', Nat.digitChar (b.toNat / 16), Nat.digitChar (b.toNat % 16)]

/-- A text with all of its bytes escaped. -/
def escapeText (s : String) : List Char := (utf8Encode s.toList).flatMap escapeByte

/-- A digit is one byte, which is read back as the digit. -/
theorem hexDigit?_digitChar {n : Nat} (h : n < 16) :
    ∃ b : UInt8, String.utf8EncodeChar (Nat.digitChar n) = [b] ∧
      hexDigit? (.ofNat b.toNat) = some n := by
  have all : ∀ n : Fin 16,
      String.utf8EncodeChar (Nat.digitChar n) = [.ofNat (Nat.digitChar n).toNat] ∧
        hexDigit? (.ofNat (UInt8.ofNat (Nat.digitChar n).toNat).toNat) = some n.val := by
    decide
  exact ⟨_, all ⟨n, h⟩⟩

theorem percentDecode_escapeByte (b : UInt8) (rest : List UInt8) :
    percentDecode (utf8Encode (escapeByte b) ++ rest) = b :: percentDecode rest := by
  have hb : b.toNat < 256 := b.toNat_lt
  obtain ⟨high, hhigh, hhigh'⟩ := hexDigit?_digitChar (n := b.toNat / 16) (by omega)
  obtain ⟨low, hlow, hlow'⟩ := hexDigit?_digitChar (n := b.toNat % 16) (by omega)
  have hbytes : utf8Encode (escapeByte b) ++ rest = 37 :: high :: low :: rest := by
    simp only [utf8Encode, escapeByte, List.flatMap_cons, List.flatMap_nil, hhigh, hlow]
    rfl
  rw [hbytes, percentDecode, if_pos rfl]
  simp only [hhigh', hlow', Nat.div_add_mod', UInt8.ofNat_toNat]

theorem percentDecode_escape (bytes : List UInt8) :
    percentDecode (utf8Encode (bytes.flatMap escapeByte)) = bytes := by
  induction bytes with
  | nil => rfl
  | cons b bytes ih =>
      have happend : utf8Encode ((b :: bytes).flatMap escapeByte) =
          utf8Encode (escapeByte b) ++ utf8Encode (bytes.flatMap escapeByte) := by
        simp only [utf8Encode, List.flatMap_cons, List.flatMap_append]
      rw [happend, percentDecode_escapeByte, ih]

/-- An escaped text is read back. -/
theorem decodeSegment?_escapeText (s : String) : decodeSegment? (escapeText s) = some s := by
  rw [decodeSegment?, escapeText, percentDecode_escape, utf8Decode?_encode]
  simp

theorem not_mem_escapeText (s : String) {c : Char} (h : ∀ n : Fin 16, Nat.digitChar n ≠ c)
    (hc : c ≠ '%') : c ∉ escapeText s := by
  intro hmem
  obtain ⟨b, -, hb⟩ := List.mem_flatMap.mp hmem
  have hlt : b.toNat < 256 := b.toNat_lt
  simp only [escapeByte, List.mem_cons, List.not_mem_nil, or_false] at hb
  rcases hb with hb | hb | hb
  · exact hc hb
  · exact h ⟨b.toNat / 16, by omega⟩ hb.symm
  · exact h ⟨b.toNat % 16, by omega⟩ hb.symm

/-! ### Routes of addresses -/

/-- What follows the path of the API for values of objects leads to these. -/
theorem route?_customValues {rest : List Char} (h : rest ≠ []) :
    route? ((customRoot ++ "/").toList ++ rest) = some (.customValues rest) := by
  -- None of the other routes begins with that path and a slash.
  have hne : ∀ t : String, ¬ (customRoot ++ "/").toList <+: t.toList →
      (customRoot ++ "/").toList ++ rest ≠ t.toList := by
    intro t ht heq
    exact ht (heq ▸ List.prefix_append ..)
  have hstrip : stripStart? (customRoot ++ "/").toList ((customRoot ++ "/").toList ++ rest) =
      some rest := by
    rw [stripStart?, List.take_left, List.drop_left, if_pos rfl]
  rw [route?, if_neg (hne _ (by decide)), if_neg (hne _ (by decide)), if_neg (hne _ (by decide)),
    if_neg (hne _ (by decide)), if_neg (hne _ (by decide)), hstrip]
  simp [h]

/-- The address of a path to values of objects, without a query. -/
def objectAddress (path : String) : String :=
  .ofList ((customRoot ++ "/").toList ++ escapeText path)

/-- The mark of a query or a fragment does not occur in the address of a path. -/
theorem not_mem_objectAddress (path : String) {c : Char} (h : ∀ n : Fin 16, Nat.digitChar n ≠ c)
    (hc : c ≠ '%') (hroot : c ∉ (customRoot ++ "/").toList) : c ∉ (objectAddress path).toList := by
  rw [objectAddress, String.toList_ofList, List.mem_append, not_or]
  exact ⟨hroot, not_mem_escapeText path h hc⟩

theorem splitAddress_objectAddress (path : String) :
    splitAddress (objectAddress path) = ((objectAddress path).toList, []) := by
  have hfragment :
      (objectAddress path).toList.takeWhile (· ≠ '#') = (objectAddress path).toList := by
    rw [List.takeWhile_eq_self_iff]
    intro c hc
    rw [decide_eq_true_eq]
    rintro rfl
    exact not_mem_objectAddress path (by decide) (by decide) (by decide) hc
  have hquery : cut? '?' (objectAddress path).toList = none :=
    cut?_eq_none_iff.mpr (not_mem_objectAddress path (by decide) (by decide) (by decide))
  have hhead : (objectAddress path).toList.head? = some '/' := by
    rw [objectAddress, String.toList_ofList]
    rfl
  simp only [splitAddress, hfragment, hhead, if_true, splitQuery, hquery, Option.getD_none]

theorem objectPath?_objectAddress {path : String} (h : path ≠ "") :
    objectPath? (objectAddress path) = some path := by
  have hne : escapeText path ≠ [] := by
    intro heq
    have hdecode := decodeSegment?_escapeText path
    rw [heq] at hdecode
    exact h (Option.some.inj hdecode).symm
  rw [objectPath?, splitAddress_objectAddress, objectAddress, String.toList_ofList,
    route?_customValues hne]
  exact decodeSegment?_escapeText path

/-- Each path but the empty one has an address without a query. -/
theorem exists_address {path : String} (h : path ≠ "") :
    ∃ address, objectPath? address = some path ∧ (splitAddress address).2 = [] :=
  ⟨objectAddress path, objectPath?_objectAddress h, by rw [splitAddress_objectAddress]⟩

end Http

end ScalingMetrics
