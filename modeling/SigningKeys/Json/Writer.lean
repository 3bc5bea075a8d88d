import SigningKeys.Json.Shortest
import SigningKeys.Text.Quoted

/-!
# Writing documents

`Value.render` writes a value without blanks. Only quotes, backslashes and control characters of a
string are escaped; the short escapes are used where there is one.
-/

namespace SigningKeys.Json

/-- How a character is written in a string. -/
def writtenChar (c : Char) : List Char :=
  if c == '"' then ['\\', '"']
  else if c == '\\' then ['\\', '\\']
  else if c == '\x08' then ['\\', 'b']
  else if c == '\t' then ['\\', 't']
  else if c == '\n' then ['\\', 'n']
  else if c == '\x0c' then ['\\', 'f']
  else if c == '\r' then ['\\', 'r']
  else if c.toNat < 0x20 then ['\\', 'u'] ++ Text.hexPadded 4 c.toNat
  else [c]

/-- A string between quotes. -/
def writtenText (s : String) : List Char := '"' :: s.toList.flatMap writtenChar ++ ['"']

/-- The text of a number. -/
def Number.render : Number → List Char
  | .int n => (toString n).toList
  | .float f => f.text.toList

mutual

/-- The characters of a value. -/
def Value.chars : Value → List Char
  | .null => "null".toList
  | .bool true => "true".toList
  | .bool false => "false".toList
  | .num n => n.render
  | .str s => writtenText s
  | .arr items => '[' :: charsOfItems true items ++ [']']
  | .obj members => '\x7b' :: charsOfMembers true members ++ ['\x7d']

/-- The characters of a list's items, with a comma before each of them but the first of all. -/
def Value.charsOfItems (first : Bool) : List Value → List Char
  | [] => []
  | v :: rest => (if first then [] else [',']) ++ v.chars ++ charsOfItems false rest

/-- The characters of an object's members. -/
def Value.charsOfMembers (first : Bool) : List (String × Value) → List Char
  | [] => []
  | (k, v) :: rest =>
    (if first then [] else [',']) ++ writtenText k ++ ':' :: v.chars ++ charsOfMembers false rest

end

/-- **The text of a value.** -/
def Value.render (v : Value) : String := String.ofList v.chars

end SigningKeys.Json
