/-!
# Byte order marks

## Main definitions

- `Text.withoutMark`: a text without the byte order mark at its start.
-/

namespace LiveText.Text

/-- A text without the byte order mark at its start. Of two marks the second stays. -/
def withoutMark : List Char → List Char
  | '\ufeff' :: rest => rest
  | cs => cs

end LiveText.Text
