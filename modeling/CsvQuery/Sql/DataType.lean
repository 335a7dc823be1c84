import CsvQuery.Sql.Literal

/-!
# Types

* `DataType`: a type, in its own wording.
* `parseDataType`: a type. Any name is one.
-/

namespace CsvQuery.Sql

open Parse

/-- The kinds of types that have to be told apart. -/
inductive DataTypeKind
  | interval
  /-- A name that is no type of the language itself. -/
  | named
  | builtin
  deriving DecidableEq, Repr

/-- A type. -/
structure DataType where
  kind : DataTypeKind
  text : String
  deriving DecidableEq, Repr

/-- A number in parentheses, as it is written behind a type, if a parenthesis comes next. -/
def parsePrecision : Parse String := do
  if (← peek) = some (.symbol "(") then
    return "(" ++ toString (← parenthesized parseNatural) ++ ")"
  else return ""

/-- One or two numbers in parentheses, likewise. -/
def parseScale : Parse String := do
  if (← peek) = some (.symbol "(") then
    parenthesized do
      let precision ← parseNatural
      if ← acceptSymbol "," then
        return "(" ++ toString precision ++ "," ++ toString (← parseNatural) ++ ")"
      else return "(" ++ toString precision ++ ")"
  else return ""

/-- A length in parentheses with an optional unit, likewise. -/
def parseLength : Parse String := do
  if (← peek) = some (.symbol "(") then
    parenthesized do
      let n ← parseNatural
      match ← acceptOneOf ["CHARACTERS", "OCTETS"] with
      | some unit => return "(" ++ toString n ++ " " ++ unit ++ ")"
      | none => return "(" ++ toString n ++ ")"
  else return ""

/-- A type of integers, which may be unsigned. -/
def parseIntegerType (words : String) : Parse String := do
  let precision ← parsePrecision
  if ← acceptWord "UNSIGNED" then return words ++ precision ++ " UNSIGNED"
  else return words ++ precision

/-- A type of texts whose length may vary. -/
def parseCharacterType (words : String) : Parse String := do
  if ← acceptWord "VARYING" then return words ++ " VARYING" ++ (← parseLength)
  else if ← acceptWords ["LARGE", "OBJECT"] then
    return words ++ " LARGE OBJECT" ++ (← parsePrecision)
  else return words ++ (← parseLength)

/-- A type of times, which may have a time zone. -/
def parseTimeType (words : String) : Parse String := do
  let precision ← parsePrecision
  if ← acceptWord "WITH" then
    expectWords ["TIME", "ZONE"]
    return words ++ precision ++ " WITH TIME ZONE"
  else if ← acceptWord "WITHOUT" then
    expectWords ["TIME", "ZONE"]
    return words ++ precision ++ " WITHOUT TIME ZONE"
  else return words ++ precision

/-- Plain strings in parentheses. -/
def parseStrings : Parse String := do
  let texts ← parenthesized (commaSeparated do
    match ← next with
    | .string .plain text => return quotedBy '\'' text
    | _ => failure)
  return "(" ++ commaList texts ++ ")"

/-- What stands in parentheses behind the name of a type, up to the closing one. -/
def parseModifiersRest : (fuel : Nat) → Parse (List String)
  | 0 => failure
  | fuel + 1 => do
    let t ← next
    match t with
    | .symbol ")" => return []
    | .symbol "," => parseModifiersRest fuel
    | .word .. => return t.render :: (← parseModifiersRest fuel)
    | .number text _ => return text :: (← parseModifiersRest fuel)
    | .string .plain text => return text :: (← parseModifiersRest fuel)
    | _ => failure

/-- A name as a type. -/
def parseNamedType : Parse DataType := do
  let name ← parsePath
  let modifiers ←
    if ← acceptSymbol "(" then parseModifiersRest (← remaining).length else pure []
  let text := renderPath name
  return ⟨.named, if modifiers.isEmpty then text else text ++ "(" ++ commaList modifiers ++ ")"⟩

/-- The types that are one word, with nothing behind it. -/
def plainTypes : List String := [
  "BOOLEAN", "REAL", "UUID", "DATE", "JSON", "REGCLASS", "STRING", "TEXT", "BYTEA"]

/-- A type that starts with a reserved word, without brackets behind it. The word has been
    taken. -/
def parseBuiltinType (inner : Parse DataType) (w : String) : Option (Parse String) :=
  if plainTypes.contains w then some (return w)
  else match w with
  | "FLOAT" | "NVARCHAR" | "CLOB" | "BINARY" | "VARBINARY" | "BLOB" | "DATETIME" =>
    some do return w ++ (← parsePrecision)
  | "TIMESTAMPTZ" | "TIMETZ" => some do return w ++ (← parsePrecision)
  | "DOUBLE" => some do
    if ← acceptWord "PRECISION" then return "DOUBLE PRECISION" else return "DOUBLE"
  | "TINYINT" | "SMALLINT" | "MEDIUMINT" | "INT" | "INTEGER" | "BIGINT" =>
    some (parseIntegerType w)
  | "VARCHAR" => some do return w ++ (← parseLength)
  | "CHARACTER" | "CHAR" => some (parseCharacterType w)
  | "TIMESTAMP" | "TIME" => some (parseTimeType w)
  | "NUMERIC" | "DECIMAL" | "DEC" | "BIGNUMERIC" | "BIGDECIMAL" =>
    some do return w ++ (← parseScale)
  | "ENUM" | "SET" => some do return w ++ (← parseStrings)
  | "ARRAY" => some do
    expectSymbol "<"
    let t ← inner
    expectSymbol ">"
    return t.text ++ "[]"
  | _ => none

/-- A pair of brackets behind a type, if one comes next. -/
def parseBrackets : Parse (Option Unit) := do
  if ← acceptSymbol "[" then some <$> expectSymbol "]" else return none

/-- A type of at most `fuel` types inside one another. -/
def parseDataTypeUpTo : (fuel : Nat) → Parse DataType
  | 0 => failure
  | fuel + 1 => do
    let t ← next
    let base ← match t with
      | .word .. =>
        if t.keyword = "INTERVAL" then pure ⟨.interval, "INTERVAL"⟩
        else match parseBuiltinType (parseDataTypeUpTo fuel) t.keyword with
          | some p => do pure ⟨.builtin, ← p⟩
          | none => do
            putBack t
            parseNamedType
      | _ => failure
    let brackets ← many parseBrackets
    if brackets.isEmpty then return base
    else return ⟨.builtin, base.text ++ String.join (brackets.map fun _ => "[]")⟩

/-- A type. -/
def parseDataType : Parse DataType := do parseDataTypeUpTo ((← remaining).length + 1)

end CsvQuery.Sql
