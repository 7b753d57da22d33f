/-!
# Blank characters

Settings, keys and price texts may be surrounded by blanks.  A character is
blank when Unicode gives it the property `White_Space`.  Trimming removes the
longest blank text at either end and touches nothing between.
-/

namespace PricePublisher.Text

/-- Whether a character has the Unicode property `White_Space`. -/
def isBlank (character : Char) : Bool :=
  let code := character.toNat
  (9 ≤ code && code ≤ 13) || code == 0x20 || code == 0x85 || code == 0xA0
    || code == 0x1680 || (0x2000 ≤ code && code ≤ 0x200A)
    || code == 0x2028 || code == 0x2029 || code == 0x202F
    || code == 0x205F || code == 0x3000

/-- The characters left when the blanks at both ends are taken away. -/
def trimChars (characters : List Char) : List Char :=
  ((characters.dropWhile isBlank).reverse.dropWhile isBlank).reverse

/-- The text left when the blanks at both ends are taken away. -/
def trim (text : String) : String :=
  String.ofList (trimChars text.toList)

/-- Whether a text holds no character other than blanks. -/
def isBlankText (text : String) : Bool :=
  text.toList.all isBlank

end PricePublisher.Text
