import CodeGraph.Json.Access
import CodeGraph.TypeExpr.Table

namespace CodeGraph.TypeTable

/-- The table that an object describes. What it leaves out is as in a new table. -/
def ofJson (value : Json) : TypeTable :=
  let new : TypeTable := { language := value.textAt "language" }
  let mark (key default : String) : String :=
    (value.get? key).elim default fun v => v.asText?.getD ""
  { new with
    primitives := value.textsAt "primitives"
    caseSensitive := value.flagAt "case_sensitive" true
    transparentWrappers := value.textsAt "transparent_wrappers"
    unionWrappers := value.textsAt "union_wrappers"
    nullTypes := value.textsAt "null_types"
    genericOpen := value.textAt "generic_open" new.genericOpen
    genericClose := value.textAt "generic_close" new.genericClose
    unionSeparators := value.textsAt "union_separators" new.unionSeparators
    intersectionSeparators := value.textsAt "intersection_separators" new.intersectionSeparators
    arraySuffix := mark "array_suffix" new.arraySuffix
    optionalSuffix := mark "optional_suffix" new.optionalSuffix
    matchLastSegment := value.flagAt "match_last_segment"
    stripQuotes := value.flagAt "strip_quotes"
    functionTypes := value.textsAt "function_types" new.functionTypes
    importTargetType := value.textAt "import_target_type" new.importTargetType
    emitTypeUsage := value.flagAt "emit_type_usage" true }

end CodeGraph.TypeTable
