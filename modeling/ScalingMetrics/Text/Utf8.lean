/-!
# UTF-8

Bytes are read one at a time. A byte that cannot continue the character before it ends that
character as malformed and is read afresh, so every maximal malformed part counts once.
-/

namespace ScalingMetrics.Text

/-- The bytes of characters. -/
def utf8Encode (cs : List Char) : List UInt8 := cs.flatMap String.utf8EncodeChar

/-- A character of which some bytes have been read. -/
structure PartialChar where
  value : Nat
  /-- The number of bytes still to come. -/
  missing : Nat
  /-- The bounds of the next byte. -/
  low : Nat
  high : Nat

/-- The start of a character of several bytes. The bounds of its second byte leave out overlong
forms, surrogates and numbers beyond the last character. -/
def PartialChar.ofLead? (b : Nat) : Option PartialChar :=
  if 0xC2 ≤ b ∧ b ≤ 0xDF then some ⟨b % 32, 1, 0x80, 0xBF⟩
  else if b = 0xE0 then some ⟨0, 2, 0xA0, 0xBF⟩
  else if b = 0xED then some ⟨13, 2, 0x80, 0x9F⟩
  else if 0xE1 ≤ b ∧ b ≤ 0xEF then some ⟨b % 16, 2, 0x80, 0xBF⟩
  else if b = 0xF0 then some ⟨0, 3, 0x90, 0xBF⟩
  else if b = 0xF4 then some ⟨4, 3, 0x80, 0x8F⟩
  else if 0xF1 ≤ b ∧ b ≤ 0xF3 then some ⟨b % 8, 3, 0x80, 0xBF⟩
  else none

/-- What a first byte completes, and the character that it starts. -/
def readLead (b : Nat) : List (Option Char) × Option PartialChar :=
  if b < 0x80 then ([some (.ofNat b)], none)
  else
    match PartialChar.ofLead? b with
    | none => ([none], none)
    | some p => ([], some p)

/-- What the next byte completes, and the character that is still open. -/
def readByte (pending : Option PartialChar) (b : Nat) : List (Option Char) × Option PartialChar :=
  match pending with
  | none => readLead b
  | some p =>
    if p.low ≤ b ∧ b ≤ p.high then
      let value := p.value * 64 + b % 64
      if p.missing ≤ 1 then ([some (.ofNat value)], none)
      else ([], some ⟨value, p.missing - 1, 0x80, 0xBF⟩)
    else
      let next := readLead b
      (none :: next.1, next.2)

/-- The characters of further bytes; malformed parts are none. -/
def utf8DecodeFrom (pending : Option PartialChar) : List UInt8 → List (Option Char)
  | [] => if pending.isSome then [none] else []
  | b :: bytes =>
    let next := readByte pending b.toNat
    next.1 ++ utf8DecodeFrom next.2 bytes

/-- The characters of bytes; malformed parts are none. -/
def utf8Decode (bytes : List UInt8) : List (Option Char) := utf8DecodeFrom none bytes

/-- The characters of well-formed bytes. -/
def utf8Decode? (bytes : List UInt8) : Option (List Char) := (utf8Decode bytes).mapM id

/-- The characters of bytes; malformed parts are shown by the replacement character. -/
def utf8DecodeLossy (bytes : List UInt8) : List Char :=
  (utf8Decode bytes).map (·.getD '\ufffd')

end ScalingMetrics.Text
