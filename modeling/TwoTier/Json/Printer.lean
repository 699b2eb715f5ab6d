/-
Writing JSON text without blanks. Strings escape the quote, the backslash and the control
characters, with a short form where there is one.
-/
import TwoTier.Json
import TwoTier.Double.Text

namespace TwoTier.Json

/-- A digit of base sixteen. -/
def hexChar (n : Nat) : Char := Nat.digitChar (n % 16)

/-- One character as it stands inside a string. -/
def escape (c : Char) : List Char :=
  match c with
  | '"' => ['\\', '"']
  | '\\' => ['\\', '\\']
  | '\x08' => ['\\', 'b']
  | '\x0c' => ['\\', 'f']
  | '\n' => ['\\', 'n']
  | '\r' => ['\\', 'r']
  | '\t' => ['\\', 't']
  | c => if c.toNat < 0x20 then ['\\', 'u', '0', '0', hexChar (c.toNat / 16), hexChar c.toNat] else [c]

def quote (s : String) : String := String.ofList ('"' :: s.toList.flatMap escape ++ ['"'])

mutual

/-- The text of a value. A floating point number that is not finite is written as null. -/
def text : Json → String
  | .null => "null"
  | .bool true => "true"
  | .bool false => "false"
  | .int i => toString i
  | .float x => if x.isFinite then x.jsonText else "null"
  | .str s => quote s
  | .arr items => "[" ++ textItems items ++ "]"
  | .obj members => "\x7b" ++ textMembers members ++ "\x7d"

def textItems : List Json → String
  | [] => ""
  | [j] => text j
  | j :: rest => text j ++ "," ++ textItems rest

def textMembers : List (String × Json) → String
  | [] => ""
  | [(k, j)] => quote k ++ ":" ++ text j
  | (k, j) :: rest => quote k ++ ":" ++ text j ++ "," ++ textMembers rest

end

end TwoTier.Json
