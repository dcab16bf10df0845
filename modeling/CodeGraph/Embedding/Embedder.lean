import CodeGraph.Embedding.Rows
import CodeGraph.Text.Blank

namespace CodeGraph

/-- A model that turns texts into embeddings. -/
structure Embedder (m : Type → Type) where
  name : String
  dimensions : Int
  isLoaded : m Bool
  /-- Loads the model, and says whether that could be done, or why it broke off. -/
  load : m (Except String Bool)
  /-- The embeddings of texts, or why there are none. -/
  generate : List String → m (Except String (List Embedding))

namespace Embedder

variable {m : Type → Type} [Monad m]

/-- Sees to it that the model is loaded, or says why it is not. -/
def ready (embedder : Embedder m) : m (Except String Unit) := do
  if ← embedder.isLoaded then return .ok ()
  match ← embedder.load with
  | .ok true => return .ok ()
  | .ok false => return .error s!"Embedding model {embedder.name} could not be loaded"
  | .error reason => return .error reason

/-- The embeddings of texts, with the model loaded for them if it is not. -/
def embedTexts (embedder : Embedder m) (texts : List String) :
    m (Except String (List Embedding)) := do
  match ← embedder.ready with
  | .error reason => return .error reason
  | .ok () =>
    if texts.isEmpty then return .ok []
    else
      match ← embedder.generate texts with
      | .ok embeddings => return .ok embeddings
      | .error reason => return .error s!"Embedding generation failed: {reason}"

/-- The embedding of one text. A blank text has zeros. -/
def embed (embedder : Embedder m) (text : String) : m (Except String Embedding) := do
  if text.toList.all Text.isBlank then
    return .ok (List.replicate embedder.dimensions.toNat 0.0)
  else
    match ← embedder.embedTexts [text] with
    | .error reason => return .error reason
    | .ok [] => return .error "Failed to generate embedding for single text"
    | .ok (embedding :: _) => return .ok embedding

end Embedder

end CodeGraph
