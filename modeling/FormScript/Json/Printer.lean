import FormScript.Decimal.Format
import FormScript.Json.Basic
import FormScript.Text.Quoted

/-!
# Written JSON

Values as JSON texts: on one line without blanks, and over several lines with two blanks for every
level. Fields are written in the order of the object.
-/

namespace FormScript.Json

/-- The text of a number. -/
def Number.text : Number → List Char
  | integer value => (toString value).toList
  | float value => if value.isFinite then Decimal.workbookStyle.write value else "null".toList

/-- The text of a value without parts, or the value's opening and closing marks. -/
def leafText : Json → List Char
  | null => "null".toList
  | bool true => "true".toList
  | bool false => "false".toList
  | number n => n.text
  | string s => Text.Quoted.encode s.toList
  | array _ => "[]".toList
  | object _ => "\x7b\x7d".toList

mutual

/-- A value on one line. -/
def compactChars : Json → List Char
  | array (v :: vs) => '[' :: compactChars v ++ compactItems vs
  | object ((key, v) :: fields) =>
    '\x7b' :: Text.Quoted.encode key.toList ++ ':' :: compactChars v ++ compactFields fields
  | v => leafText v

/-- The items after the first one of an array. -/
def compactItems : List Json → List Char
  | [] => [']']
  | v :: vs => ',' :: compactChars v ++ compactItems vs

/-- The fields after the first one of an object. -/
def compactFields : List (String × Json) → List Char
  | [] => ['\x7d']
  | (key, v) :: fields =>
    ',' :: Text.Quoted.encode key.toList ++ ':' :: compactChars v ++ compactFields fields

end

/-- A new line at a level. -/
def newLine (level : Nat) : List Char := '\n' :: List.replicate (2 * level) ' '

mutual

/-- A value over several lines, its first line continuing the current one. -/
def prettyChars (level : Nat) : Json → List Char
  | array (v :: vs) => '[' :: newLine (level + 1) ++ prettyChars (level + 1) v ++ prettyItems level vs
  | object ((key, v) :: fields) =>
    '\x7b' :: newLine (level + 1) ++ Text.Quoted.encode key.toList ++ ':' :: ' ' ::
      prettyChars (level + 1) v ++ prettyFields level fields
  | v => leafText v

/-- The items after the first one of an array. -/
def prettyItems (level : Nat) : List Json → List Char
  | [] => newLine level ++ [']']
  | v :: vs => ',' :: newLine (level + 1) ++ prettyChars (level + 1) v ++ prettyItems level vs

/-- The fields after the first one of an object. -/
def prettyFields (level : Nat) : List (String × Json) → List Char
  | [] => newLine level ++ ['\x7d']
  | (key, v) :: fields =>
    ',' :: newLine (level + 1) ++ Text.Quoted.encode key.toList ++ ':' :: ' ' ::
      prettyChars (level + 1) v ++ prettyFields level fields

end

/-- A value on one line. -/
def compact (v : Json) : String := String.ofList (compactChars v)

/-- A value over several lines. -/
def pretty (v : Json) : String := String.ofList (prettyChars 0 v)

end FormScript.Json
