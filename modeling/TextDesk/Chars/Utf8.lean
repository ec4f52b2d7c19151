/-! # UTF-8

Strings as lists of bytes.  Main statement: reading what was written gives the string back.
-/

namespace TextDesk

/-- Bytes, as they stand in a file or a stream. -/
abbrev Bytes := List UInt8

/-- The UTF-8 bytes of a string. -/
def utf8Bytes (s : String) : Bytes := s.toByteArray.data.toList

/-- The string that the bytes spell, if they are valid UTF-8. -/
def ofUtf8? (bytes : Bytes) : Option String := String.fromUTF8? ⟨bytes.toArray⟩

/-- The bytes of strings one behind the other stand one behind the other. -/
theorem utf8Bytes_append (s t : String) : utf8Bytes (s ++ t) = utf8Bytes s ++ utf8Bytes t := by
  simp [utf8Bytes]

/-- Reading the bytes of a string gives the string back. -/
theorem ofUtf8?_utf8Bytes (s : String) : ofUtf8? (utf8Bytes s) = some s := by
  have h : (⟨(utf8Bytes s).toArray⟩ : ByteArray) = s.toByteArray := by simp [utf8Bytes]
  simp only [ofUtf8?, h, String.fromUTF8?, s.isValidUTF8, dite_true]
  rfl

/-- Only the bytes of a string spell it. -/
theorem eq_utf8Bytes_of_ofUtf8? {bytes : Bytes} {s : String} (h : ofUtf8? bytes = some s) :
    bytes = utf8Bytes s := by
  unfold ofUtf8? String.fromUTF8? at h
  split at h
  · cases h
    simp [utf8Bytes, String.fromUTF8]
  · cases h

end TextDesk
