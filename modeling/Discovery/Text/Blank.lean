namespace Discovery.Text

/-!
# Blank characters

The characters with the Unicode property White_Space, and the trimming of a
text that goes by it.
-/

/-- The code points with the property White_Space. -/
def blankCodePoints : List Nat :=
  [ 0x09, 0x0a, 0x0b, 0x0c, 0x0d, 0x20, 0x85, 0xa0, 0x1680
  , 0x2000, 0x2001, 0x2002, 0x2003, 0x2004, 0x2005, 0x2006, 0x2007, 0x2008, 0x2009, 0x200a
  , 0x2028, 0x2029, 0x202f, 0x205f, 0x3000 ]

/-- Whether a character is blank. -/
def isBlank (character : Char) : Bool :=
  blankCodePoints.contains character.toNat

/-- Drop the blank characters at both ends. -/
def trimCharacters (characters : List Char) : List Char :=
  ((characters.dropWhile isBlank).reverse.dropWhile isBlank).reverse

/-- A text without the blank characters at its ends. -/
def trim (text : String) : String :=
  String.ofList (trimCharacters text.toList)

end Discovery.Text
