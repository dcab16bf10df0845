import CodeGraph.Text.Blank
import CodeGraph.Text.Lines

namespace CodeGraph

/-- Variables with their values. -/
abbrev Environment := List (String × String)

/-- The value of a variable. The last one set counts. -/
def Environment.get? (environment : Environment) (name : String) : Option String :=
  List.lookup name environment.reverse

namespace VariableFile

/-- A variable and what stands behind its equals sign, if there is one. -/
abbrev Entry := String × Option String

/-- Blanks that do not end a line. -/
def isInlineBlank (c : Char) : Bool :=
  Text.isBlank c && c != '\n'

/-- The text after the current line. -/
def afterLine (chars : List Char) : List Char :=
  (chars.dropWhile (· != '\n')).drop 1

/-- The text after an entry, where the line ends or a comment stands. -/
def afterEntry? (chars : List Char) : Option (List Char) :=
  match chars.dropWhile isInlineBlank with
  | [] => some []
  | '\n' :: rest => some rest
  | '#' :: rest => some (afterLine rest)
  | _ => none

/-- The text after the word that may stand before a name. -/
def afterExport (chars : List Char) : List Char :=
  let rest := chars.drop 6
  if "export".toList.isPrefixOf chars && rest.head?.any isInlineBlank then
    rest.dropWhile isInlineBlank
  else chars

/-- The name at the start of a text, and the text after it. -/
def name? (chars : List Char) : Option (String × List Char) :=
  let named (part : Char → Bool) (chars : List Char) : Option (String × List Char) :=
    if chars.head?.any part then some (String.ofList (chars.takeWhile part), chars.dropWhile part)
    else none
  match chars with
  | '\'' :: rest =>
    match named (· != '\'') rest with
    | some (name, _ :: after) => some (name, after)
    | _ => none
  | chars => named (fun c => !(c == '=' || c == '#' || Text.isBlank c)) chars

/-- A text up to a quotation mark, and the text after the mark. A mark behind a backslash counts only
if there is no other. -/
def quoted (mark : Char) (taken : List Char) (closed : Option (List Char × List Char)) :
    List Char → Option (List Char × List Char)
  | [] => closed
  | '\\' :: c :: rest =>
    if c == mark then quoted mark (c :: '\\' :: taken) (some (('\\' :: taken).reverse, rest)) rest
    else quoted mark ('\\' :: taken) closed (c :: rest)
  | c :: rest =>
    if c == mark then some (taken.reverse, rest) else quoted mark (c :: taken) closed rest

/-- What characters behind a backslash stand for in single quotes. -/
def singleEscapes : List (Char × Char) :=
  [('\\', '\\'), ('\'', '\'')]

/-- What characters behind a backslash stand for in double quotes. -/
def doubleEscapes : List (Char × Char) :=
  [('\\', '\\'), ('\'', '\''), ('"', '"'), ('a', '\x07'), ('b', '\x08'), ('f', '\x0c'), ('n', '\n'),
    ('r', '\x0d'), ('t', '\t'), ('v', '\x0b')]

/-- A text with its escapes replaced. A backslash before any other character stays. -/
def unescaped (escapes : List (Char × Char)) : List Char → List Char
  | [] => []
  | '\\' :: c :: rest =>
    match escapes.lookup c with
    | some meant => meant :: unescaped escapes rest
    | none => '\\' :: unescaped escapes (c :: rest)
  | c :: rest => c :: unescaped escapes rest

/-- A text up to a number sign behind a blank. -/
def uncommented (afterBlank : Bool) : List Char → List Char
  | [] => []
  | c :: rest =>
    if afterBlank && c == '#' then [] else c :: uncommented (Text.isBlank c) rest

/-- The value at the start of a text, and the text after it. -/
def value? : List Char → Option (List Char × List Char)
  | '\'' :: rest => (quoted '\'' [] none rest).map fun (value, after) =>
    (unescaped singleEscapes value, after)
  | '"' :: rest => (quoted '"' [] none rest).map fun (value, after) =>
    (unescaped doubleEscapes value, after)
  | chars =>
    let line := chars.takeWhile (· != '\n')
    some (Text.dropRightWhile Text.isBlank (uncommented false line), chars.dropWhile (· != '\n'))

/-- The entry at the start of a text that starts with no blank, and the text after it. -/
def entry (chars : List Char) : Option Entry × List Char :=
  let chars := afterExport chars
  let ended (found : Option Entry) (after : List Char) : Option Entry × List Char :=
    match afterEntry? after with
    | some rest => (found, rest)
    | none => (none, afterLine after)
  if chars.head? == some '#' then (none, afterLine chars)
  else match name? chars with
    | none => (none, afterLine chars)
    | some (name, after) =>
      match after.dropWhile isInlineBlank with
      | '=' :: rest =>
        let rest := rest.dropWhile isInlineBlank
        match value? rest with
        | some (value, after) => ended (some (name, some (String.ofList value))) after
        | none => (none, afterLine rest)
      | after => ended (some (name, none)) after

/-- The entries of a text. Every one takes a part of the text. -/
def entries (chars : List Char) : List Entry :=
  match chars.dropWhile Text.isBlank with
  | [] => []
  | c :: more =>
    let found := entry (c :: more)
    let rest := if found.2.length < chars.length then entries found.2 else []
    found.1.toList ++ rest
termination_by chars.length

/-- The name of a variable and what stands in for its value, at the start of a text after a dollar sign
and a brace, and the text after the closing brace. -/
def place? (chars : List Char) : Option (String × List Char × List Char) :=
  let name := String.ofList (chars.takeWhile fun c => c != '\x7d' && c != ':')
  match chars.dropWhile fun c => c != '\x7d' && c != ':' with
  | '\x7d' :: rest => some (name, [], rest)
  | ':' :: '-' :: more =>
    match more.dropWhile (· != '\x7d') with
    | '\x7d' :: rest => some (name, more.takeWhile (· != '\x7d'), rest)
    | _ => none
  | _ => none

theorem place?_length {chars default after : List Char} {name : String}
    (found : place? chars = some (name, default, after)) : after.length < chars.length := by
  have shorter := (List.dropWhile_suffix (l := chars) fun c => c != '\x7d' && c != ':').length_le
  unfold place? at found
  split at found
  · rename_i rest reached
    simp only [Option.some.injEq, Prod.mk.injEq] at found
    rw [reached, found.2.2, List.length_cons] at shorter
    exact shorter
  · rename_i more reached
    have shorter' := (List.dropWhile_suffix (l := more) (· != '\x7d')).length_le
    split at found
    · rename_i rest reached'
      simp only [Option.some.injEq, Prod.mk.injEq] at found
      rw [reached', found.2.2, List.length_cons] at shorter'
      rw [reached, List.length_cons, List.length_cons] at shorter
      omega
    · simp at found
  · simp at found

/-- A text with the values of variables in the places for them. -/
def filled (value? : String → Option String) : List Char → List Char
  | [] => []
  | '$' :: '\x7b' :: rest =>
    match found : place? rest with
    | some (name, default, after) =>
      have := place?_length found
      ((value? name).elim default String.toList) ++ filled value? after
    | none => '$' :: filled value? ('\x7b' :: rest)
  | c :: rest => c :: filled value? rest
termination_by chars => chars.length

/-- A variable with a new value, in the place of an older one of the same name. -/
def set (entry : Entry) (entries : List Entry) : List Entry :=
  if entries.any (·.1 == entry.1) then
    entries.map fun old => if old.1 == entry.1 then entry else old
  else entries ++ [entry]

/-- The variables that a text sets. Those of the environment can be used in values, and so can those
set before. -/
def read (environment : Environment) (text : String) : List Entry :=
  let value? (done : List Entry) (name : String) : Option String :=
    match done.lookup name with
    | some value => some (value.getD "")
    | none => environment.get? name
  (entries (Text.unifyLineEnds text.toList)).foldl (fun done entry =>
    let value := entry.2.map fun written =>
      String.ofList (filled (value? done) written.toList)
    set (entry.1, value) done) []

end VariableFile

end CodeGraph
