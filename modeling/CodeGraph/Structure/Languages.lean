import CodeGraph.Structure.Registry
import CodeGraph.TypeExpr.Table

namespace CodeGraph.Registry

/-- Languages with their extensions and other names. -/
def knownLanguages : List (TypeTable × List String × List String) :=
  [(.typescript, [".ts", ".tsx", ".mts", ".cts"], ["tsx", "ts"]),
    (.javascript, [".js", ".jsx", ".mjs", ".cjs"], ["jsx", "js"]),
    (.python, [".py", ".pyi"], ["py"])]

/-- The registry of the known languages. -/
def known : Registry TypeTable :=
  knownLanguages.foldl (fun registry (table, extensions, aliases) =>
    match registry.register table.language table extensions aliases with
    | .ok next => next
    | .error _ => registry) {}

end CodeGraph.Registry
