import PageSketch.Json.Numeral
import PageSketch.Text.Reader

/-! Reading JSON text. -/
namespace PageSketch.Json

/-- The value of a hexadecimal digit. -/
def hexValue? (char : Char) : Option Nat :=
  if char.isDigit then some (char.toNat - '0'.toNat)
  else if 'a' ≤ char ∧ char ≤ 'f' then some (char.toNat - 'a'.toNat + 10)
  else if 'A' ≤ char ∧ char ≤ 'F' then some (char.toNat - 'A'.toNat + 10)
  else none

/-- The 16-bit unit that four hexadecimal digits write. -/
def unit? : Reader Nat
  | first :: second :: third :: fourth :: rest => do
    let high := 16 * (← hexValue? first) + (← hexValue? second)
    let low := 16 * (← hexValue? third) + (← hexValue? fourth)
    return (256 * high + low, rest)
  | _ => none

/-- The character that one or two units write. Neither half of a pair stands for a character. -/
def unitsCharacter? (chars : Text) : Option (Char × Text) := do
  let (first, rest) ← unit? chars
  if first < 0xD800 ∨ 0xE000 ≤ first then return (Char.ofNat first, rest)
  else
    let later ← Text.after? ['\\', 'u'] rest
    let (second, left) ← unit? later
    if first < 0xDC00 ∧ 0xDC00 ≤ second ∧ second < 0xE000 then
      return (Char.ofNat (0x10000 + 0x400 * (first - 0xD800) + (second - 0xDC00)), left)
    else none

/-- The character that is written after a backslash inside quotation marks. -/
def escaped? (mark : Char) : Reader Char
  | '\\' :: rest => some ('\\', rest)
  | '/' :: rest => some ('/', rest)
  | 'b' :: rest => some ('\x08', rest)
  | 'f' :: rest => some ('\x0c', rest)
  | 'n' :: rest => some ('\n', rest)
  | 'r' :: rest => some ('\r', rest)
  | 't' :: rest => some ('\t', rest)
  | 'u' :: rest => unitsCharacter? rest
  | other :: rest => if other = mark then some (mark, rest) else none
  | [] => none

/-- The characters up to the closing quotation mark, with their backslashes, after what was read of
them, which is kept backwards. -/
def quotedFrom (mark : Char) (read : Text) : Reader Text
  | [] => none
  | '\\' :: escaped :: rest => quotedFrom mark (escaped :: '\\' :: read) rest
  | first :: rest =>
    if first = mark then some (read.reverse, rest) else quotedFrom mark (first :: read) rest

/-- The text that characters between quotation marks stand for, after what was read of it, which is
kept backwards. Control characters have to be escaped. -/
def unescapeFrom (mark : Char) (read : Text) : (bound : Text) → Text → Option Text
  | _, [] => some read.reverse
  | [], _ => none
  | _ :: bound, '\\' :: rest =>
    (escaped? mark rest).bind fun (char, left) => unescapeFrom mark (char :: read) bound left
  | _ :: bound, first :: rest =>
    if first.toNat < 0x20 then none else unescapeFrom mark (first :: read) bound rest

/-- The text after an opening quotation mark, up to the closing one. -/
def quotedText? (mark : Char) : Reader String := fun chars =>
  (quotedFrom mark [] chars).bind fun (inner, rest) =>
    (unescapeFrom mark [] inner inner).map fun text => (String.ofList text, rest)

/-- The values up to the closing mark, at least one, with a comma between each two of them. -/
def valuesFrom {Value : Type} (close : Char) (value? : Reader Value) :
    (bound : Text) → Reader (List Value)
  | [], _ => none
  | _ :: bound, chars => do
    let (first, rest) ← value? (Text.skipGaps chars)
    match Text.skipGaps rest with
    | ',' :: later =>
      let (others, left) ← valuesFrom close value? bound later
      return (first :: others, left)
    | mark :: left => if mark = close then return ([first], left) else none
    | [] => none

/-- The values after an opening mark, up to the closing one. -/
def values? {Value : Type} (close : Char) (value? : Reader Value) : Reader (List Value) :=
  fun chars =>
    match Text.skipGaps chars with
    | mark :: rest =>
      if mark = close then some ([], rest) else valuesFrom close value? chars (mark :: rest)
    | [] => none

/-- A field of an object: its name, a colon, and its value. -/
def namedValue? (value? : Reader Json) : Reader (String × Json)
  | '"' :: rest => do
    let (name, afterName) ← quotedText? '"' rest
    match Text.skipGaps afterName with
    | ':' :: later =>
      let (value, left) ← value? (Text.skipGaps later)
      return ((name, value), left)
    | _ => none
  | _ => none

/-- The fields, sorted by name, with one more among them. It replaces a field of the same name. -/
def insertField (field : String × Json) : List (String × Json) → List (String × Json)
  | [] => [field]
  | first :: rest =>
    if field.1 < first.1 then field :: first :: rest
    else if field.1 = first.1 then field :: rest
    else first :: insertField field rest

/-- The object with these fields, sorted by name; the last one of a name counts. -/
def ofFields (fields : List (String × Json)) : Json :=
  object (fields.foldl (fun sorted field => insertField field sorted) [])

/-- The value that a text starts with, in which arrays and objects are nested so deep at most. -/
def valueWithin : (depth : Nat) → Reader Json
  | _, '"' :: rest => (quotedText? '"' rest).map fun (value, left) => (.text value, left)
  | 0, '[' :: _ => none
  | depth + 1, '[' :: rest =>
    (values? ']' (valueWithin depth) rest).map fun (values, left) => (array values, left)
  | 0, '{' :: _ => none
  | depth + 1, '{' :: rest =>
    (values? '}' (namedValue? (valueWithin depth)) rest).map fun (fields, left) =>
      (ofFields fields, left)
  | _, 'n' :: 'u' :: 'l' :: 'l' :: rest => some (null, rest)
  | _, 't' :: 'r' :: 'u' :: 'e' :: rest => some (bool true, rest)
  | _, 'f' :: 'a' :: 'l' :: 's' :: 'e' :: rest => some (bool false, rest)
  | _, chars => numeral? chars

/-- How deep arrays and objects may be nested. -/
def greatestDepth : Nat := 127

/-- The value that a JSON text writes. -/
def read? (chars : Text) : Option Json :=
  match valueWithin greatestDepth (Text.skipGaps chars) with
  | some (value, rest) => if (Text.skipGaps rest).isEmpty then some value else none
  | none => none

end PageSketch.Json
