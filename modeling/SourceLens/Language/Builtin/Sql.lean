import SourceLens.Language.Builtin.Shared

/-!
# SQL
-/

namespace SourceLens.Builtin.Sql

open Pattern

/-- The keywords, in any case. -/
def keywords : List String := [
  "select", "from", "where", "insert", "into", "values", "update",
  "set", "delete", "create", "alter", "drop", "table", "view",
  "index", "trigger", "function", "procedure", "join", "inner",
  "left", "right", "outer", "full", "on", "group", "by", "order",
  "having", "limit", "offset", "as", "and", "or", "not", "null",
  "is", "in", "exists", "between", "like", "distinct", "union",
  "primary", "key", "foreign", "references", "default", "unique",
  "begin", "end", "returns", "return", "case", "when", "then",
  "else", "with", "asc", "desc"]

/-- The functions of every dialect, in any case. -/
def functions : List String := ["count", "sum", "avg", "min", "max", "coalesce", "now"]

/-- The token categories. -/
def categories : List Category := [
  ⟨"comment", "comment", choice [lineComment "--", blockComment]⟩,
  ⟨"string", "string", doubledString "'" '\''⟩,
  ⟨"keyword", "keyword", (wordOf keywords).ignoringCase⟩,
  ⟨"builtin", "builtin", (wordOf functions).ignoringCase⟩,
  ⟨"number", "number", number⟩,
  ⟨"operator", "operator",
    (choice [oneOf "+*%=<>!|", concat [only '-', .ahead false (only '-')],
      concat [only '/', .ahead false (only '*')]]).plus⟩]

/-- **SQL**, which is only highlighted. -/
def rule : Rule :=
  .ofCategories "sql" ["SQL", "postgresql", "mysql"] ".sql" categories none

end SourceLens.Builtin.Sql
