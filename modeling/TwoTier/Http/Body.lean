/-
The body of a request that names one text: an object with one member that counts, or an array of
one text. The body is read from front to back, and the first thing that is wrong decides whether it
is refused as malformed or as something else than expected.
-/
import TwoTier.Json.Skip

namespace TwoTier.Http.Body

open TwoTier.Json

/-- Why a body is refused. -/
inductive Refusal where
  /-- It is no JSON text. -/
  | malformed
  /-- It is not what is expected. -/
  | unexpected
deriving Repr, DecidableEq

/-- What is wrong with a value that should be of another kind: arrays and objects are not read, a
scalar has to be well formed. -/
def unfit (text : List Char) : Refusal :=
  let wellFormed : Bool := match text with
    | '[' :: _ => true
    | '\x7b' :: _ => true
    | '"' :: rest => (stringBody rest).isSome
    | 'n' :: rest => (word? ['u', 'l', 'l'] rest).isSome
    | 't' :: rest => (word? ['r', 'u', 'e'] rest).isSome
    | 'f' :: rest => (word? ['a', 'l', 's', 'e'] rest).isSome
    | text => (numeral text).any fun n => n.1.value.isSome
  if wellFormed then .unexpected else .malformed

/-- A text and what follows it. -/
def textValue (text : List Char) : Except Refusal (String × List Char) :=
  match skipBlanks text with
  | '"' :: rest =>
    match stringBody rest with
    | some (cs, rest) => .ok (String.ofList cs, rest)
    | none => .error .malformed
  | rest => .error (unfit rest)

/-- The text behind a colon. -/
def colon (text : List Char) : Except Refusal (List Char) :=
  match skipBlanks text with
  | ':' :: rest => .ok rest
  | _ => .error .malformed

/-- The members of an object, from the opening quote of a key on: the text of the member called
`name`, which must occur once, and what follows the object. Other members are passed over. -/
def members (name : String) (fuel : Nat) (found : Option String) (text : List Char) :
    Except Refusal (String × List Char) :=
  match fuel with
  | 0 => .error .malformed
  | fuel + 1 =>
    match text with
    | '"' :: rest => do
      let (key, rest) ← match stringBody rest with
        | some r => .ok r
        | none => .error .malformed
      let (found, rest) ←
        if key = name.toList then
          if found.isSome then .error .unexpected
          else do
            let (v, rest) ← textValue (← colon rest)
            .ok (some v, rest)
        else do
          match skipValue (rest.length + 1) (← colon rest) with
          | some rest => .ok (found, rest)
          | none => .error .malformed
      match skipBlanks rest with
      | '\x7d' :: rest =>
        match found with
        | some v => .ok (v, rest)
        | none => .error .unexpected
      | ',' :: rest => members name fuel found (skipBlanks rest)
      | _ => .error .malformed
    | _ => .error .malformed

/-- The one value of a body and what follows it. -/
def value (name : String) (text : List Char) : Except Refusal (String × List Char) :=
  match skipBlanks text with
  | '\x7b' :: rest =>
    match skipBlanks rest with
    | '\x7d' :: _ => .error .unexpected
    | rest => members name (rest.length + 1) none rest
  | '[' :: rest =>
    match skipBlanks rest with
    | ']' :: _ => .error .unexpected
    | [] => .error .malformed
    | rest => do
      let (v, rest) ← textValue rest
      match skipBlanks rest with
      | ']' :: rest => .ok (v, rest)
      | _ => .error .malformed
  | rest => .error (unfit rest)

/-- The text that a body gives under a name. Nothing may follow it. -/
def read (name : String) (body : String) : Except Refusal String := do
  let (v, rest) ← value name body.toList
  if (skipBlanks rest).isEmpty then .ok v else .error .malformed

end TwoTier.Http.Body
