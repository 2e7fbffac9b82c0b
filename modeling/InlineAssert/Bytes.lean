namespace InlineAssert

abbrev Bytes := List UInt8

namespace Bytes

def ofString (s : String) : Bytes := s.toByteArray.data.toList

def decode? (bytes : Bytes) : Option String := String.fromUTF8? ⟨bytes.toArray⟩

/-- The text of a part of a source. A part cut at its delimiters is always UTF-8. -/
def text (bytes : Bytes) : String := (decode? bytes).getD ""

def dropReturn (bytes : Bytes) : Bytes :=
  if bytes.getLast? = some 13 then bytes.dropLast else bytes

theorem decode?_ofString (s : String) : decode? (ofString s) = some s := by
  simp only [decode?, ofString, String.fromUTF8?]
  exact dif_pos s.isValidUTF8

@[simp] theorem text_ofString (s : String) : text (ofString s) = s := by
  simp [text, decode?_ofString]

end Bytes

end InlineAssert
