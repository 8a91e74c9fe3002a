/-!
# Bytes as text

Reading bytes as UTF-8 text: strictly, where bytes that are no text have no reading, and leniently,
where each longest stretch of bytes that begins no character is shown as one replacement character.
-/

namespace GeoBench.Text

/-- A character of which some bytes are still to come: how many, the range that the next one must
lie in, and the code point so far. -/
structure Unfinished where
  missing : Nat
  lowest : Nat
  highest : Nat
  code : Nat

/-- What the first byte of a character gives: the character itself, or the start of a longer one. -/
def beginChar (b : Nat) : Char ⊕ Unfinished :=
  if b < 0x80 then .inl (Char.ofNat b)
  else if 0xC2 ≤ b && b ≤ 0xDF then .inr ⟨1, 0x80, 0xBF, b - 0xC0⟩
  else if b == 0xE0 then .inr ⟨2, 0xA0, 0xBF, 0⟩
  else if b == 0xED then .inr ⟨2, 0x80, 0x9F, 0xD⟩
  else if 0xE1 ≤ b && b ≤ 0xEF then .inr ⟨2, 0x80, 0xBF, b - 0xE0⟩
  else if b == 0xF0 then .inr ⟨3, 0x90, 0xBF, 0⟩
  else if b == 0xF4 then .inr ⟨3, 0x80, 0x8F, 4⟩
  else if 0xF1 ≤ b && b ≤ 0xF3 then .inr ⟨3, 0x80, 0xBF, b - 0xF0⟩
  else .inl '\uFFFD'

/-- The lenient reading of the bytes that follow an unfinished character, if there is one. -/
def lenientFrom : Option Unfinished → List UInt8 → List Char
  | none, [] => []
  | some _, [] => ['\uFFFD']
  | none, b :: bs =>
    match beginChar b.toNat with
    | .inl c => c :: lenientFrom none bs
    | .inr u => lenientFrom (some u) bs
  | some u, b :: bs =>
    if u.lowest ≤ b.toNat && b.toNat ≤ u.highest then
      let code := u.code * 64 + (b.toNat - 0x80)
      if u.missing ≤ 1 then Char.ofNat code :: lenientFrom none bs
      else lenientFrom (some ⟨u.missing - 1, 0x80, 0xBF, code⟩) bs
    else
      match beginChar b.toNat with
      | .inl c => '\uFFFD' :: c :: lenientFrom none bs
      | .inr v => '\uFFFD' :: lenientFrom (some v) bs

/-- The text of some bytes, with a replacement character for each stretch that is no text. -/
def decodeLenient (bytes : ByteArray) : String :=
  String.ofList (lenientFrom none bytes.toList)

/-- The text that the bytes spell, if they spell one. -/
def decode? (bytes : ByteArray) : Option String :=
  String.fromUTF8? bytes

/-- The bytes of a text. -/
def encode (s : String) : ByteArray :=
  s.toUTF8

end GeoBench.Text
