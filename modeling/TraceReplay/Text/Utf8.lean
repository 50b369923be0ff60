/-!
# Text as bytes

The UTF-8 bytes of a text, character by character.
-/

namespace TraceReplay.Text

/-- UTF-8 bytes of a list of characters. -/
def utf8Chars (cs : List Char) : List UInt8 := cs.flatMap String.utf8EncodeChar

/-- UTF-8 bytes of a text. -/
def utf8 (s : String) : List UInt8 := utf8Chars s.toList

@[simp] theorem utf8Chars_append (cs ds : List Char) :
    utf8Chars (cs ++ ds) = utf8Chars cs ++ utf8Chars ds := by
  simp [utf8Chars]

@[simp] theorem utf8_append (s t : String) : utf8 (s ++ t) = utf8 s ++ utf8 t := by
  simp [utf8]

end TraceReplay.Text
