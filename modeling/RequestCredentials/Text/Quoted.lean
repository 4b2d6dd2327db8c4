import RequestCredentials.Text.Printable
/-
  Quoted text

  Messages show a text between quotes in a form that keeps every code point
  visible. Single quotes are used, double quotes when the text holds a single
  quote and no double one. Inside, the quote in use and the backslash are
  escaped, and so is every code point that is not printable: by letter for the
  line feed, carriage return and tab, else by number.
-/

namespace RequestCredentials.Text

/-- The quote that stands around a text. -/
def quoteMark (s : Text) : CodePoint :=
  if s.contains (CodePoint.ofChar '\'') && !s.contains (CodePoint.ofChar '"') then '"' else '\''

/-- A code point as it stands between two quote marks. -/
def quotedPoint (mark c : CodePoint) : Text :=
  if c = mark ∨ c = '\\' then ['\\', c]
  else if c = '\n' then "\\n"
  else if c = '\r' then "\\r"
  else if c = '\t' then "\\t"
  else if c.isPrintable then [c]
  else if c.val < 0x100 then "\\x" ++ ofHex 2 c.val
  else if c.val < 0x10000 then "\\u" ++ ofHex 4 c.val
  else "\\U" ++ ofHex 8 c.val

/-- The text between quotes. -/
def quoted (s : Text) : Text :=
  let mark := quoteMark s
  mark :: s.flatMap (quotedPoint mark) ++ [mark]

end RequestCredentials.Text
