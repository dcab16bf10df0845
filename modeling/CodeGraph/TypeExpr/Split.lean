import CodeGraph.Text.Blank

namespace CodeGraph.TypeExpr

def isOpener (c : Char) : Bool :=
  c == '<' || c == '[' || c == '(' || c == '\x7b'

def isCloser (c : Char) : Bool :=
  c == '>' || c == ']' || c == ')' || c == '\x7d'

/-- The bracket depth after a character. -/
def depthAfter (depth : Nat) (c : Char) : Nat :=
  if isOpener c then depth + 1 else if isCloser c then depth - 1 else depth

/-- The first separator that the text starts with. An empty one hides those listed after it. -/
def separatorAt? (separators : List (List Char)) (text : List Char) : Option (List Char) :=
  (separators.find? (·.isPrefixOf text)).filter (!·.isEmpty)

/-- The pieces from a position on. `current` is the piece so far, reversed, and `skip` counts the
characters of a separator that are still to be passed. -/
def cutFrom (separators : List (List Char)) (depth : Nat) (current : List Char) :
    Nat → List Char → List (List Char)
  | _, [] => [current.reverse]
  | skip + 1, _ :: rest => cutFrom separators depth current skip rest
  | 0, c :: rest =>
    if isOpener c || isCloser c || depth != 0 then
      cutFrom separators (depthAfter depth c) (c :: current) 0 rest
    else match separatorAt? separators (c :: rest) with
      | some separator =>
        current.reverse :: cutFrom separators 0 [] (separator.length - 1) rest
      | none => cutFrom separators depth (c :: current) 0 rest

/-- The trimmed pieces of a text between separators outside brackets. Blank pieces are left out. -/
def splitTopLevel (separators : List (List Char)) (text : List Char) : List (List Char) :=
  (cutFrom separators 0 [] 0 text).map (Text.trimChars Text.isBlank) |>.filter (!·.isEmpty)

end CodeGraph.TypeExpr
