namespace CodeGraph.Text

/-- Characters that end a line. -/
def isLineEnd (c : Char) : Bool :=
  let n := c.toNat
  (0x0A ≤ n && n ≤ 0x0D) || (0x1C ≤ n && n ≤ 0x1E) || n == 0x85 || n == 0x2028 || n == 0x2029

/-- Lines of the rest of a text, given the current line reversed and whether a carriage return
came just before. -/
def linesFrom (current : List Char) (afterReturn : Bool) : List Char → List (List Char)
  | [] => if current.isEmpty then [] else [current.reverse]
  | c :: rest =>
    if afterReturn && c == '\n' then linesFrom [] false rest
    else if isLineEnd c then current.reverse :: linesFrom [] (c == '\x0d') rest
    else linesFrom (c :: current) false rest

/-- The lines of a text, without their endings. -/
def lines (s : String) : List String :=
  (linesFrom [] false s.toList).map String.ofList

/-- Characters with every line end made of a carriage return, alone or before a line feed, as a line
feed. -/
def unifyLineEnds : List Char → List Char
  | '\x0d' :: '\n' :: rest => '\n' :: unifyLineEnds rest
  | '\x0d' :: rest => '\n' :: unifyLineEnds rest
  | c :: rest => c :: unifyLineEnds rest
  | [] => []

end CodeGraph.Text
