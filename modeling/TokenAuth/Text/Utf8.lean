/-!
Texts as UTF-8 bytes. Every text has one byte form, and only byte forms of texts are read.
-/
namespace TokenAuth.Text

def utf8 (s : String) : List UInt8 := s.toUTF8.data.toList

/-- The text with these bytes. Overlong forms and surrogates are no text. -/
def ofUtf8? (bs : List UInt8) : Option String := String.fromUTF8? ⟨bs.toArray⟩

theorem ofUtf8?_utf8 (s : String) : ofUtf8? (utf8 s) = some s := by
  simp only [ofUtf8?, utf8, String.fromUTF8?]
  have h : (⟨s.toUTF8.data.toList.toArray⟩ : ByteArray) = s.toByteArray := rfl
  simp only [h, String.isValidUTF8]
  simp
  rfl

theorem utf8_of_ofUtf8? {bs : List UInt8} {s : String} (h : ofUtf8? bs = some s) : utf8 s = bs := by
  simp only [ofUtf8?, String.fromUTF8?] at h
  split at h
  · next hv =>
    rw [Option.some.injEq] at h
    subst h
    simp [utf8, String.fromUTF8]
  · simp at h

end TokenAuth.Text
