import CodeGraph.Files.Path
import CodeGraph.Json.Value
import CodeGraph.Text.Blank
import CodeGraph.Text.Case

namespace CodeGraph

/-- Extractors by language, other names of languages, and languages by file extension. -/
structure Registry (Extractor : Type) where
  extractors : List (String × Extractor) := []
  aliases : List (String × String) := []
  extensions : List (String × String) := []
deriving Repr

namespace Registry

variable {Extractor : Type}

/-- A name as it is compared. -/
def fold (s : String) : String :=
  Text.lower (Text.trim s)

/-- An extension as it is compared, with a dot in front unless it is empty. -/
def foldExtension (s : String) : String :=
  let extension := fold s
  if extension == "" || extension.toList.head? == some '.' then extension else "." ++ extension

/-- Binds a key: in its place if it is there, otherwise at the end. -/
def bind {Value : Type} (key : String) (value : Value) :
    List (String × Value) → List (String × Value)
  | [] => [(key, value)]
  | (k, v) :: rest => if k == key then (k, value) :: rest else (k, v) :: bind key value rest

/-- Registers an extractor for a language. A language that has one keeps it unless it is to be
overridden. -/
def register (registry : Registry Extractor) (language : String) (extractor : Extractor)
    (extensions aliases : List String) (override : Bool := false) :
    Except String (Registry Extractor) :=
  let language := fold language
  if (registry.extractors.lookup language).isSome && !override then
    .error s!"Extractor for {language} already registered. Use override=True to replace."
  else
    .ok {
      extractors := bind language extractor registry.extractors
      aliases := aliases.foldl (fun found other => bind (fold other) language found) registry.aliases
      extensions := extensions.foldl
        (fun found extension => bind (foldExtension extension) language found) registry.extensions }

/-- Removes a language with its other names and extensions, and tells whether it was there. -/
def unregister (registry : Registry Extractor) (language : String) : Bool × Registry Extractor :=
  let language := fold language
  if (registry.extractors.lookup language).isSome then
    (true, {
      extractors := registry.extractors.filter (·.1 != language)
      aliases := registry.aliases.filter (·.2 != language)
      extensions := registry.extensions.filter (·.2 != language) })
  else (false, registry)

/-- The language that a key means: an extension with its dot, a language, another name of one, or an
extension without its dot. -/
def language? (registry : Registry Extractor) (key : String) : Option String :=
  let key := fold key
  if key == "" then none
  else if key.toList.head? == some '.' then registry.extensions.lookup key
  else if (registry.extractors.lookup key).isSome then some key
  else match registry.aliases.lookup key with
    | some language => some language
    | none => registry.extensions.lookup ("." ++ key)

/-- The extractor for a language, another name of one, or an extension. -/
def get? (registry : Registry Extractor) (key : String) : Option Extractor :=
  (registry.language? key).bind fun language => registry.extractors.lookup language

/-- The extractor for a file, by its last extension. -/
def forFile? (registry : Registry Extractor) (path : String) : Option Extractor :=
  let suffix := Path.suffix path
  if suffix == "" then none else registry.get? suffix

def supports (registry : Registry Extractor) (key : String) : Bool :=
  (registry.get? key).isSome

/-- Texts in the order of their characters. -/
def sorted (names : List String) : List String :=
  names.mergeSort fun a b => decide (a ≤ b)

def languages (registry : Registry Extractor) : List String :=
  sorted (registry.extractors.map (·.1))

def supportedExtensions (registry : Registry Extractor) : List String :=
  sorted (registry.extensions.map (·.1))

/-- What is registered, as an object. -/
def stats (registry : Registry Extractor) : Json :=
  .obj [("total_extractors", .int registry.extractors.length),
    ("total_extensions", .int registry.extensions.length),
    ("languages", Json.strings registry.languages),
    ("aliases", .obj (registry.aliases.map fun other => (other.1, .str other.2))),
    ("extensions", Json.strings registry.supportedExtensions)]

end Registry

end CodeGraph
