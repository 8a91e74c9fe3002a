import GeoBench.Text.Utf8

/-!
# Octets

The shell and its tools work on octets and not on characters. An octet is held as the character with
its number, so that what is read and written can be handled as lists of characters; text goes in and
out through its encoding.

## Main results

* `toBytes_ofBytes` — octets made from bytes give these bytes back.
-/

namespace GeoBench.Shell

/-- A string of **octets**, each as the character with its number. -/
abbrev Octets := List Char

namespace Octets

/-- The octets of some bytes. -/
def ofBytes (bytes : ByteArray) : Octets :=
  bytes.data.toList.map fun b => Char.ofNat b.toNat

/-- The octets of a text. -/
def ofText (text : String) : Octets :=
  ofBytes (Text.encode text)

/-- The bytes that octets stand for. -/
def toBytes (o : Octets) : ByteArray :=
  ⟨(o.map fun c => c.toNat.toUInt8).toArray⟩

/-- The text of octets; what is no text in them is shown by a replacement character. -/
def toText (o : Octets) : String :=
  Text.decodeLenient (toBytes o)

/-- The octets as they are, for a name that is known to be plain. -/
def key (o : Octets) : String :=
  String.ofList o

/-- Octets made from bytes give these bytes back. -/
theorem toBytes_ofBytes (bytes : ByteArray) : toBytes (ofBytes bytes) = bytes := by
  obtain ⟨data⟩ := bytes
  have octet : ∀ b : UInt8, (Char.ofNat b.toNat).toNat.toUInt8 = b := by
    intro b
    have hlt : b.toNat < 256 := b.toNat_lt
    have hv : b.toNat.isValidChar := Or.inl (by omega)
    have hc : (Char.ofNat b.toNat).toNat = b.toNat := by
      rw [Char.ofNat, dif_pos hv]
      rfl
    rw [hc]
    exact UInt8.ofNat_toNat
  simp [ofBytes, toBytes, Function.comp_def, octet]

end Octets

end GeoBench.Shell
