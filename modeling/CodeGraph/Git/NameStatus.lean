import CodeGraph.Impact.Report
import CodeGraph.Text.Lines
import CodeGraph.Text.Search

namespace CodeGraph.ChangedFiles

/-- Changes put after others. -/
def append (a b : ChangedFiles) : ChangedFiles :=
  ⟨a.added ++ b.added, a.modified ++ b.modified, a.deleted ++ b.deleted⟩

instance : Append ChangedFiles := ⟨append⟩

/-- What a line tells. Lines that are not understood tell nothing. -/
def ofLine (line : List Char) : ChangedFiles :=
  match Text.splitAt '\t' line with
  | status :: path :: more =>
    let newPath := (more.head?.filter (!·.isEmpty)).toList.map String.ofList
    let path' := String.ofList path
    if path.isEmpty then {}
    else match (Text.trimChars Text.isBlank status).head? with
      | some 'A' => { added := [path'] }
      | some 'M' | some 'T' => { modified := [path'] }
      | some 'D' => { deleted := [path'] }
      | some 'R' => { deleted := [path'], added := newPath }
      | some 'C' => { added := newPath }
      | _ => {}
  | _ => {}

/-- The files that lines tell of. -/
def ofNameStatus (text : String) : ChangedFiles :=
  (Text.linesFrom [] false text.toList).foldl (fun found line => found ++ ofLine line) {}

end CodeGraph.ChangedFiles
