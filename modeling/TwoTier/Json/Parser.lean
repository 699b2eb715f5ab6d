/-
Reading JSON text. A document is one value with blanks around it; arrays and objects nest at most
a given number of levels deep.
-/
import TwoTier.Json.Scan

namespace TwoTier.Json

/-- The text after a literal word. -/
def word? (letters : List Char) (text : List Char) : Option (List Char) :=
  if text.take letters.length = letters then some (text.drop letters.length) else none

mutual

/-- A value at the start of the text; `fuel` bounds the characters read and `depth` the levels of
nesting left. -/
def value (fuel depth : Nat) (text : List Char) : Option (Json × List Char) :=
  match fuel with
  | 0 => none
  | fuel + 1 =>
    match skipBlanks text with
    | '"' :: rest => (stringBody rest).map fun (cs, rest) => (.str (String.ofList cs), rest)
    | '[' :: rest =>
      match depth with
      | 0 => none
      | depth + 1 =>
        match skipBlanks rest with
        | ']' :: rest => some (.arr [], rest)
        | rest => (items fuel depth rest).map fun (js, rest) => (.arr js, rest)
    | '\x7b' :: rest =>
      match depth with
      | 0 => none
      | depth + 1 =>
        match skipBlanks rest with
        | '\x7d' :: rest => some (.obj [], rest)
        | rest => (members fuel depth rest).map fun (ms, rest) => (object ms, rest)
    | 'n' :: rest => (word? ['u', 'l', 'l'] rest).map fun rest => (.null, rest)
    | 't' :: rest => (word? ['r', 'u', 'e'] rest).map fun rest => (.bool true, rest)
    | 'f' :: rest => (word? ['a', 'l', 's', 'e'] rest).map fun rest => (.bool false, rest)
    | text =>
      match numeral text with
      | none => none
      | some (n, rest) => n.value.map fun j => (j, rest)

/-- The rest of an array that has at least one more item. -/
def items (fuel depth : Nat) (text : List Char) : Option (List Json × List Char) :=
  match fuel with
  | 0 => none
  | fuel + 1 =>
    match value fuel depth text with
    | none => none
    | some (j, rest) =>
      match skipBlanks rest with
      | ']' :: rest => some ([j], rest)
      | ',' :: rest => (items fuel depth rest).map fun (js, rest) => (j :: js, rest)
      | _ => none

/-- The rest of an object that has at least one more member. -/
def members (fuel depth : Nat) (text : List Char) : Option (List (String × Json) × List Char) :=
  match fuel with
  | 0 => none
  | fuel + 1 =>
    match skipBlanks text with
    | '"' :: rest =>
      match stringBody rest with
      | none => none
      | some (key, rest) =>
        match skipBlanks rest with
        | ':' :: rest =>
          match value fuel depth rest with
          | none => none
          | some (j, rest) =>
            let m := (String.ofList key, j)
            match skipBlanks rest with
            | '\x7d' :: rest => some ([m], rest)
            | ',' :: rest => (members fuel depth rest).map fun (ms, rest) => (m :: ms, rest)
            | _ => none
        | _ => none
    | _ => none

end

/-- The document that a text holds, with arrays and objects nested at most `depth` levels. -/
def parseWithin (depth : Nat) (text : String) : Option Json :=
  match value (text.length + 1) depth text.toList with
  | some (j, rest) => if (skipBlanks rest).isEmpty then some j else none
  | none => none

/-- The document that a text holds; a hundred and twenty-seven levels are accepted. -/
def parse (text : String) : Option Json := parseWithin 127 text

end TwoTier.Json
