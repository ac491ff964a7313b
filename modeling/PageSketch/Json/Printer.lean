import PageSketch.Double.Decimal
import PageSketch.Json.Basic

/-! JSON text, laid out over lines. -/
namespace PageSketch.Json

/-- The digit of a number below 16. -/
def hexDigit (value : Nat) : Char := "0123456789abcdef".toList.getD value '0'

/-- How a character is written inside a JSON string. -/
def escapeChar (char : Char) : Text :=
  if char = '"' then ['\\', '"']
  else if char = '\\' then ['\\', '\\']
  else if char = '\n' then ['\\', 'n']
  else if char = '\r' then ['\\', 'r']
  else if char = '\t' then ['\\', 't']
  else if char.toNat = 8 then ['\\', 'b']
  else if char.toNat = 12 then ['\\', 'f']
  else if char.toNat < 32 then
    ['\\', 'u', '0', '0', hexDigit (char.toNat / 16), hexDigit (char.toNat % 16)]
  else [char]

/-- A JSON string with its quotation marks. -/
def quoted (text : String) : Text := '"' :: text.toList.flatMap escapeChar ++ ['"']

/-- A line end and the indentation of a depth, two spaces a level. -/
def newLine (depth : Nat) : Text := '\n' :: List.replicate (2 * depth) ' '

mutual

/-- A value as JSON text, each element and field on a line of its own. -/
def print (depth : Nat) : Json → Text
  | null => "null".toList
  | bool value => (if value then "true" else "false").toList
  | number value => (toString value).toList
  | double value => value.text
  | text value => quoted value
  | array [] => "[]".toList
  | array (first :: rest) =>
    '[' :: newLine (depth + 1) ++ print (depth + 1) first ++ printElements (depth + 1) rest ++
      newLine depth ++ [']']
  | object [] => "\x7b\x7d".toList
  | object ((name, value) :: rest) =>
    '{' :: newLine (depth + 1) ++ quoted name ++ ": ".toList ++ print (depth + 1) value ++
      printFields (depth + 1) rest ++ newLine depth ++ ['}']

/-- The elements after the first. -/
def printElements (depth : Nat) : List Json → Text
  | [] => []
  | first :: rest => ',' :: newLine depth ++ print depth first ++ printElements depth rest

/-- The fields after the first. -/
def printFields (depth : Nat) : List (String × Json) → Text
  | [] => []
  | (name, value) :: rest =>
    ',' :: newLine depth ++ quoted name ++ ": ".toList ++ print depth value ++
      printFields depth rest

end

/-- A value as JSON text, laid out over lines. -/
def pretty (value : Json) : String := String.ofList (print 0 value)

end PageSketch.Json
