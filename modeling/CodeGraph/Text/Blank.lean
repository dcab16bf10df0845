namespace CodeGraph.Text

/-- The characters with the property White_Space. -/
def isWhiteSpace (c : Char) : Bool :=
  let n := c.toNat
  (0x09 ≤ n && n ≤ 0x0D) || n == 0x20 || n == 0x85 || n == 0xA0 || n == 0x1680 ||
    (0x2000 ≤ n && n ≤ 0x200A) || n == 0x2028 || n == 0x2029 || n == 0x202F || n == 0x205F ||
    n == 0x3000

/-- White space and the information separators. -/
def isBlank (c : Char) : Bool :=
  isWhiteSpace c || (0x1C ≤ c.toNat && c.toNat ≤ 0x1F)

theorem isBlank_of_isWhiteSpace {c : Char} (h : isWhiteSpace c = true) : isBlank c = true := by
  simp [isBlank, h]

/-- Drops characters of a class at the end. -/
def dropRightWhile (p : Char → Bool) (chars : List Char) : List Char :=
  (chars.reverse.dropWhile p).reverse

/-- Drops characters of a class at both ends. -/
def trimChars (p : Char → Bool) (chars : List Char) : List Char :=
  dropRightWhile p (chars.dropWhile p)

/-- A text without blanks at its ends. -/
def trim (s : String) : String :=
  String.ofList (trimChars isBlank s.toList)

/-- A text without white space at its ends. Information separators stay. -/
def trimWhiteSpace (s : String) : String :=
  String.ofList (trimChars isWhiteSpace s.toList)

/-- Whether a text holds blanks only. -/
def allBlank (s : String) : Bool :=
  s.toList.all isBlank

end CodeGraph.Text
