/-
Which content types announce JSON: `application/json` and the types whose suffix says so, such as
`application/problem+json`, in letters of either case and with any parameters. A type that is not
well formed announces nothing.
-/

namespace TwoTier.Http.MediaType

/-- A character of a type, a parameter's name or a plain value. -/
def isToken (c : Char) : Bool :=
  c.isAlphanum || ['!', '#', '$', '%', '&', '\'', '*', '+', '-', '.', '^', '_', '\x60', '|', '~'].contains c

/-- A character of a quoted value. -/
def isQuotable (c : Char) : Bool := decide (' ' ≤ c ∧ c ≤ '~')

/-- How far the parameters have been read. -/
inductive State where
  /-- A name may begin. -/
  | gap
  | name
  /-- A value begins. -/
  | mark
  | plain
  /-- The first character behind an opening quote, which cannot be the closing one. -/
  | opened
  | quoted
  | closed
deriving Repr, DecidableEq

/-- The state after one more character. -/
def State.next : State → Char → Option State
  | .gap, c => if c = ' ' then some .gap else if isToken c then some .name else none
  | .name, c => if c = '=' then some .mark else if isToken c then some .name else none
  | .mark, c => if c = '"' then some .opened else if isToken c then some .plain else none
  | .plain, c => if c = ';' then some .gap else if isToken c then some .plain else none
  | .opened, c => if isQuotable c then some .quoted else none
  | .quoted, c => if c = '"' then some .closed else if isQuotable c then some .quoted else none
  | .closed, c => if c = ';' then some .gap else if c = ' ' then some .closed else none

/-- Whether the parameters may end in a state. -/
def State.accepts : State → Bool
  | .gap => true
  | .mark => true
  | .plain => true
  | .closed => true
  | _ => false

/-- Whether what follows the type is well formed. -/
def isTail : List Char → Bool
  | [] => true
  | ';' :: rest =>
    match rest.foldlM State.next .gap with
    | some s => s.accepts
    | none => false
  | _ => false

/-- The text before the last plus, which is not the first character, and the text behind it. -/
def splitSuffix (text : List Char) : Option (List Char × List Char) :=
  let suffix := (text.reverse.takeWhile (· != '+')).reverse
  let before := text.take (text.length - suffix.length - 1)
  if text.contains '+' && !before.isEmpty then some (before, suffix) else none

/-- Whether a type's second part is JSON, by itself or by its suffix. -/
def isJsonSubtype (text : List Char) : Bool :=
  match splitSuffix text with
  | some (before, suffix) => before == "json".toList || suffix == "json".toList
  | none => text == "json".toList

/-- Whether a content type announces JSON. -/
def isJson (contentType : String) : Bool :=
  let text := contentType.toList.map Char.toLower
  let kind := text.takeWhile (· != '/')
  match text.dropWhile (· != '/') with
  | [] => false
  | _ :: rest =>
    let subtype := rest.takeWhile (· != ';')
    kind == "application".toList && subtype.all isToken && isJsonSubtype subtype && isTail (rest.drop subtype.length)

end TwoTier.Http.MediaType
