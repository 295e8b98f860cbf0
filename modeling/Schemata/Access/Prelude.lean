import Schemata.Access.Code

/-!
# What every generated module starts with

The types that a generated module needs, so that it only depends on something that
runs statements: values of columns, their conversion, and the connection.
-/

namespace Schemata.Access

/-- Types of errors and results. -/
def resultTypes : List Code :=
  codeLines ["pub type Error = Box<dyn std::error::Error + Send + Sync>;",
    "pub type Result<T> = std::result::Result<T, Error>;"]

/-- The values of columns. -/
def valueEnum : List Code :=
  [.line "/// A column value crossing the driver boundary",
    .line "#[derive(Debug, Clone, PartialEq)]",
    braces "pub enum Value" (codeLines ["Null,", "Bool(bool),", "Int(i64),", "Float(f64),",
      "Text(String),", "Blob(Vec<u8>),", "Timestamp(SystemTime),"])]

/-- Conversions into values. -/
def intoValue : List Code :=
  [braces "macro_rules! value_from"
      [.block "($($ty:ty => $variant:ident),* $(,)?) =>"
        [.block "$(impl From<$ty> for Value"
          [braces "fn from(value: $ty) -> Self" [.line "Value::$variant(value.into())"]] ")*"]
        ";"],
    .blank,
    braces "value_from!" (codeLines ["bool => Bool,", "i32 => Int,", "i64 => Int,",
      "f64 => Float,", "String => Text,", "Vec<u8> => Blob,", "SystemTime => Timestamp,"]),
    .blank,
    braces "impl<T: Into<Value>> From<Option<T>> for Value"
      [braces "fn from(value: Option<T>) -> Self"
        [.line "value.map_or(Value::Null, Into::into)"]]]

/-- The conversion out of a value into a type. -/
def fromValue (target : String) (body : List Code) : Code :=
  braces target [braces "fn from_value(value: Value) -> Result<Self>" body]

/-- The conversion out of a value by cases. -/
def fromValueCases (type expected : String) (cases : List String) : Code :=
  fromValue ("impl FromValue for " ++ type)
    [braces "match value"
      (codeLines (cases ++ ["other => Err(mismatch(\"" ++ expected ++ "\", &other)),"]))]

/-- Conversions out of values. -/
def outOfValue : List Code :=
  [.line "/// Conversion out of a driver value",
    braces "pub trait FromValue: Sized" [.line "fn from_value(value: Value) -> Result<Self>;"],
    .blank,
    braces "fn mismatch(expected: &str, found: &Value) -> Error"
      [.line "format!(\"expected \x7b\x7d, found \x7b:?\x7d\", expected, found).into()"],
    .blank,
    fromValueCases "bool" "bool" ["Value::Bool(b) => Ok(b),", "Value::Int(i) => Ok(i != 0),"],
    .blank,
    fromValueCases "i64" "integer" ["Value::Int(i) => Ok(i),"],
    .blank,
    fromValue "impl FromValue for i32" [.line "Ok(i32::try_from(i64::from_value(value)?)?)"],
    .blank,
    fromValueCases "f64" "float" ["Value::Float(f) => Ok(f),", "Value::Int(i) => Ok(i as f64),"],
    .blank,
    fromValueCases "String" "text" ["Value::Text(s) => Ok(s),"],
    .blank,
    fromValueCases "Vec<u8>" "blob" ["Value::Blob(b) => Ok(b),"],
    .blank,
    fromValueCases "SystemTime" "timestamp" ["Value::Timestamp(t) => Ok(t),"],
    .blank,
    fromValue "impl<T: FromValue> FromValue for Option<T>"
      [braces "match value" (codeLines ["Value::Null => Ok(None),",
        "other => T::from_value(other).map(Some),"])],
    .blank,
    braces "fn take<T: FromValue>(values: &mut std::vec::IntoIter<Value>) -> Result<T>"
      [.line "T::from_value(values.next().ok_or(\"row has too few columns\")?)"]]

/-- The connection that statements are run on. -/
def executorTrait : List Code :=
  [.line "/// Connection seam, implemented over a concrete driver",
    braces "pub trait Executor"
      [.line "/// Run a statement, returning the number of affected rows",
        .line "fn execute(&mut self, sql: &str, args: Vec<Value>) -> Result<u64>;",
        .blank,
        .line "fn query(&mut self, sql: &str, args: Vec<Value>) -> Result<Vec<Vec<Value>>>;",
        .blank,
        .line "/// Row identity of the last inserted row",
        .line "fn last_insert_id(&mut self) -> Result<i64>;"]]

/-- Everything that a generated module starts with. -/
def prelude : List Code :=
  resultTypes ++ [.blank] ++ valueEnum ++ [.blank] ++ intoValue ++ [.blank] ++ outOfValue ++
    [.blank] ++ executorTrait

end Schemata.Access
