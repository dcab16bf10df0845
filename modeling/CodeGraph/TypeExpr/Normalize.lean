import CodeGraph.TypeExpr.Split
import CodeGraph.TypeExpr.Table

namespace CodeGraph.TypeTable

open CodeGraph.Text CodeGraph.TypeExpr

def isQuote (c : Char) : Bool :=
  c == '\'' || c == '"'

/-- A text without a suffix at its end, trimmed, if it has that suffix and the suffix is not empty. -/
def withoutSuffix? (mark text : List Char) : Option (List Char) :=
  if !mark.isEmpty && mark.isSuffixOf text then
    some (trimChars isBlank (text.take (text.length - mark.length)))
  else none

/-- A text without the optional and array marks at its end, in any number. -/
def withoutMarks (optional array : List Char) : Nat → List Char → List Char
  | 0, text => text
  | fuel + 1, text =>
    let first := withoutSuffix? optional text
    let second := withoutSuffix? array (first.getD text)
    if first.isSome || second.isSome then
      withoutMarks optional array fuel (second.getD (first.getD text))
    else text

/-- A generic: what stands before its bracket, and its arguments. A missing closing bracket is taken
to stand at the end. -/
def generic? (table : TypeTable) (text : List Char) : Option (List Char × List (List Char)) :=
  match find? table.genericOpen.toList text with
  | some (start + 1) =>
    let close := match findLast? table.genericClose.toList text with
      | some i => if i ≤ start + 1 then text.length else i
      | none => text.length
    some (trimChars isBlank (text.take (start + 1)),
      splitTopLevel [[',']] ((text.take close).drop (start + 2)))
  | _ => none

/-- A trimmed annotation without the quotes around it. Where quotes do not mark a reference, a
quoted annotation is a literal and has no name. -/
def unquoted? (table : TypeTable) (text : List Char) : Option (List Char) :=
  if text.head?.any isQuote then
    if table.stripQuotes then some (trimChars isBlank (trimChars isQuote text)) else none
  else some text

/-- Whether an annotation is blank, a function type, or starts with a parenthesis or a brace. -/
def isNameless (text : List Char) : Bool :=
  text.isEmpty || (find? ['=', '>'] text).isSome || text.head?.any fun c => c == '(' || c == '\x7b'

/-- The name of an annotation, at most the given number of levels deep. -/
def nameWithin (table : TypeTable) : Nat → List Char → Option (List Char)
  | 0, _ => none
  | levels + 1, written => do
    let text ← table.unquoted? (trimChars isBlank written)
    if isNameless text then none
    else
      let members := splitTopLevel (table.unionSeparators.map String.toList) text
      if members.length > 1 then
        let first ← members.find? (!table.isNull ·)
        table.nameWithin levels first
      else
        let parts := splitTopLevel (table.intersectionSeparators.map String.toList) text
        if parts.length > 1 then
          let first ← parts.head?
          table.nameWithin levels first
        else
          let base := withoutMarks table.optionalSuffix.toList table.arraySuffix.toList
            (text.length + 1) text
          if base.isEmpty then none
          else match table.generic? base with
            | some (outer, arguments) =>
              if table.isUnionWrapper outer then
                let first ← arguments.find? (!table.isNull ·)
                table.nameWithin levels first
              else if table.isTransparent outer then
                let first ← arguments.head?
                table.nameWithin levels first
              else if table.isNull outer || table.isPrimitive outer then none
              else some outer
            | none => if table.isNull base || table.isPrimitive base then none else some base

/-- The depth to which unions, intersections and generics are followed. -/
def nestingLimit : Nat := 16

/-- The name that an annotation refers to. -/
def normalize? (table : TypeTable) (written : String) : Option String :=
  (table.nameWithin (nestingLimit + 1) written.toList).map String.ofList

end CodeGraph.TypeTable
