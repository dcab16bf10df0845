namespace CodeGraph.Text

/-- The position of the first occurrence of a piece. -/
def find? (piece : List Char) : List Char → Option Nat
  | [] => if piece.isEmpty then some 0 else none
  | c :: rest =>
    if piece.isPrefixOf (c :: rest) then some 0 else (find? piece rest).map (· + 1)

/-- The position of the last occurrence of a piece. -/
def findLast? (piece : List Char) : List Char → Option Nat
  | [] => if piece.isEmpty then some 0 else none
  | c :: rest =>
    match findLast? piece rest with
    | some i => some (i + 1)
    | none => if piece.isPrefixOf (c :: rest) then some 0 else none

/-- Whether a piece occurs in a text. -/
def contains (text piece : String) : Bool :=
  (find? piece.toList text.toList).isSome

/-- What follows the last occurrence of a character, or the whole text without one. -/
def afterLast (c : Char) (chars : List Char) : List Char :=
  (chars.reverse.takeWhile (· != c)).reverse

/-- The pieces between the occurrences of a character. There is always one piece. -/
def splitAt (c : Char) : List Char → List (List Char)
  | [] => [[]]
  | d :: rest =>
    if d == c then [] :: splitAt c rest
    else match splitAt c rest with
      | [] => [[d]]
      | piece :: pieces => (d :: piece) :: pieces

/-- Every character of one kind replaced by another. -/
def replaceChar (old new : Char) (s : String) : String :=
  String.ofList (s.toList.map fun c => if c == old then new else c)

/-- Each occurrence of a piece replaced, from left to right and without overlaps. -/
def replaceChars (piece new : List Char) : Nat → List Char → List Char
  | _, [] => []
  | skip + 1, _ :: rest => replaceChars piece new skip rest
  | 0, c :: rest =>
    if piece.isPrefixOf (c :: rest) then new ++ replaceChars piece new (piece.length - 1) rest
    else c :: replaceChars piece new 0 rest

/-- Each occurrence of a nonempty piece replaced. -/
def replace (s piece new : String) : String :=
  String.ofList (replaceChars piece.toList new.toList 0 s.toList)

/-- The first characters of a text. -/
def take (n : Nat) (s : String) : String :=
  String.ofList (s.toList.take n)

/-- Texts joined with a separator between neighbours. -/
def join (separator : String) (parts : List String) : String :=
  separator.intercalate parts

end CodeGraph.Text
