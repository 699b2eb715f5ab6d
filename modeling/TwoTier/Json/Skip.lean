/-
Passing over a JSON value without reading it. The text has to be well formed, however deep it nests
and however large its numbers are.
-/
import TwoTier.Json.Parser

namespace TwoTier.Json

mutual

/-- The text behind a value; `fuel` bounds the characters passed over. -/
def skipValue (fuel : Nat) (text : List Char) : Option (List Char) :=
  match fuel with
  | 0 => none
  | fuel + 1 =>
    match skipBlanks text with
    | '"' :: rest => skipString rest
    | '[' :: rest =>
      match skipBlanks rest with
      | ']' :: rest => some rest
      | rest => skipItems fuel rest
    | '\x7b' :: rest =>
      match skipBlanks rest with
      | '\x7d' :: rest => some rest
      | rest => skipMembers fuel rest
    | 'n' :: rest => word? ['u', 'l', 'l'] rest
    | 't' :: rest => word? ['r', 'u', 'e'] rest
    | 'f' :: rest => word? ['a', 'l', 's', 'e'] rest
    | text => (numeral text).map (·.2)

/-- The text behind an array that has at least one more item. -/
def skipItems (fuel : Nat) (text : List Char) : Option (List Char) :=
  match fuel with
  | 0 => none
  | fuel + 1 =>
    match (skipValue fuel text).map skipBlanks with
    | some (']' :: rest) => some rest
    | some (',' :: rest) => skipItems fuel rest
    | _ => none

/-- The text behind an object that has at least one more member. -/
def skipMembers (fuel : Nat) (text : List Char) : Option (List Char) :=
  match fuel with
  | 0 => none
  | fuel + 1 =>
    match skipBlanks text with
    | '"' :: rest =>
      match (skipString rest).map skipBlanks with
      | some (':' :: rest) =>
        match (skipValue fuel rest).map skipBlanks with
        | some ('\x7d' :: rest) => some rest
        | some (',' :: rest) => skipMembers fuel rest
        | _ => none
      | _ => none
    | _ => none

end

end TwoTier.Json
