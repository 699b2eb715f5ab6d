/-
Variables from a file of assignments, one a line: `NAME=value`, with `export` in front if wanted.
Single quotes hold text as it is; double quotes allow escapes and `$NAME`, as does text without
quotes. Quoted values may go over several lines. A name that already has a value keeps it.
-/
import TwoTier.Text
import TwoTier.Json.Scan

namespace TwoTier.EnvFile

abbrev Variables := List (String × String)

/-! ## Logical lines -/

/-- What the characters of a line so far leave open. -/
inductive State where
  | plain | blank | escape | weak | weakEscape | strong | strongEscape
deriving Repr, DecidableEq

/-- The state after one more character; `none` at the start of a comment. -/
def State.next (s : State) (c : Char) : Option State :=
  match s with
  | .blank =>
    if c = '#' then none
    else if c = '\\' then some .escape
    else if c = '"' then some .weak
    else if c = '\'' then some .strong
    else some .plain
  | .escape => some .plain
  | .plain =>
    if Text.isBlank c && c != '\n' && c != '\r' then some .blank
    else if c = '\\' then some .escape
    else if c = '"' then some .weak
    else if c = '\'' then some .strong
    else some .plain
  | .weak => some (if c = '\\' then .weakEscape else if c = '"' then .plain else .weak)
  | .weakEscape => some .weak
  | .strong => some (if c = '\\' then .strongEscape else if c = '\'' then .plain else .strong)
  | .strongEscape => some .strong

/-- The line up to a comment, and the state at its end. -/
def scan (s : State) : List Char → List Char × Option State
  | [] => ([], some s)
  | c :: rest =>
    match s.next c with
    | none => ([], none)
    | some s => let (line, s) := scan s rest; (c :: line, s)

/-- The next line with its end, and the text behind it. -/
def cutLine (text : List Char) : List Char × List Char :=
  let body := text.takeWhile (· != '\n')
  match text.drop body.length with
  | [] => (body, [])
  | c :: rest => (body ++ [c], rest)

def dropLineEnd (line : List Char) : List Char :=
  match line.reverse with
  | '\n' :: '\r' :: rest => rest.reverse
  | '\n' :: rest => rest.reverse
  | _ => line

/-- Lines with quoted values in one piece; `none` in the last place if a quote stays open. -/
def logicalLines : Nat → List Char → State → List Char → List (Option (List Char))
  | 0, _, _, _ => []
  | fuel + 1, sofar, state, text =>
    if text.isEmpty then (if sofar.isEmpty then [] else [none])
    else
      let (line, rest) := cutLine text
      if sofar.isEmpty && (line.dropWhile Text.isBlank).head? == some '#' then
        some [] :: logicalLines fuel [] .plain rest
      else
        match scan state line with
        | (kept, none) => some (sofar ++ kept) :: logicalLines fuel [] .plain rest
        | (_, some .plain) => some (dropLineEnd (sofar ++ line)) :: logicalLines fuel [] .plain rest
        | (_, some .blank) => some (dropLineEnd (sofar ++ line)) :: logicalLines fuel [] .plain rest
        | (_, some state) => logicalLines fuel (sofar ++ line) state rest

/-! ## Values -/

/-- What a name stands for inside a value: the environment goes before earlier lines. -/
def substitute (env earlier : Variables) (name : String) : List Char :=
  match env.lookup name with
  | some v => v.toList
  | none => ((earlier.lookup name).getD "").toList

/-- Where the reader of a value stands. -/
inductive Mode where
  | plain | weak | strong
  /-- Behind a backslash, inside double quotes or not. -/
  | escaped (weak : Bool)
  /-- In a name behind a dollar sign, the letters so far in reverse. -/
  | name (weak : Bool) (letters : List Char)
  | braced (weak : Bool) (letters : List Char)
  | ending

def Mode.inQuotes (weak : Bool) : Mode := if weak then .weak else .plain

/-- The value of an assignment; `none` if it is malformed. -/
def valueFrom (env earlier : Variables) : Mode → List Char → Option (List Char)
  | mode, [] =>
    match mode with
    | .weak | .strong | .braced _ _ => none
    | .name true _ => none
    | .escaped true => none
    | .name false letters => some (substitute env earlier (String.ofList letters.reverse))
    | _ => some []
  | .ending, c :: rest =>
    if c = ' ' || c = '\t' then valueFrom env earlier .ending rest
    else if c = '#' then some []
    else none
  | .escaped weak, c :: rest =>
    let out := if c = 'n' then some '\n' else if ['\\', '\'', '"', '$', ' '].contains c then some c else none
    match out with
    | none => none
    | some c => (valueFrom env earlier (.inQuotes weak) rest).map (c :: ·)
  | .strong, c :: rest =>
    if c = '\'' then valueFrom env earlier .plain rest
    else (valueFrom env earlier .strong rest).map (c :: ·)
  | .name weak letters, c :: rest =>
    if c.isAlphanum then valueFrom env earlier (.name weak (c :: letters)) rest
    else if c = '\x7b' && letters.isEmpty then valueFrom env earlier (.braced weak []) rest
    else
      let out := substitute env earlier (String.ofList letters.reverse)
      if c = '$' then (valueFrom env earlier (.name weak []) rest).map (out ++ ·)
      else (valueFrom env earlier (.inQuotes weak) rest).map (out ++ c :: ·)
  | .braced weak letters, c :: rest =>
    if c = '\x7d' then
      (valueFrom env earlier (.inQuotes weak) rest).map
        (substitute env earlier (String.ofList letters.reverse) ++ ·)
    else valueFrom env earlier (.braced weak (c :: letters)) rest
  | .weak, c :: rest =>
    if c = '$' then valueFrom env earlier (.name true []) rest
    else if c = '"' then valueFrom env earlier .plain rest
    else if c = '\\' then valueFrom env earlier (.escaped true) rest
    else (valueFrom env earlier .weak rest).map (c :: ·)
  | .plain, c :: rest =>
    if c = '$' then valueFrom env earlier (.name false []) rest
    else if c = '\'' then valueFrom env earlier .strong rest
    else if c = '"' then valueFrom env earlier .weak rest
    else if c = '\\' then valueFrom env earlier (.escaped false) rest
    else if c = ' ' || c = '\t' then valueFrom env earlier .ending rest
    else (valueFrom env earlier .plain rest).map (c :: ·)

/-! ## Assignments -/

def isNameStart (c : Char) : Bool := c.isAlpha || c = '_'
def isNameChar (c : Char) : Bool := c.isAlphanum || c = '_' || c = '.'

def skipBlanks (text : List Char) : List Char := text.dropWhile Text.isBlank

def name? (text : List Char) : Option (String × List Char) :=
  match text with
  | c :: _ =>
    if isNameStart c then
      some (String.ofList (text.takeWhile isNameChar), skipBlanks (text.dropWhile isNameChar))
    else none
  | [] => none

/-- The text behind the sign of an assignment. -/
def behindEqual? : List Char → Option (List Char)
  | '=' :: rest => some rest
  | _ => none

/-- The name on the left of an assignment and the text on its right. -/
def leftSide? (line : List Char) : Option (String × List Char) := do
  let (name, rest) ← name? line
  match behindEqual? rest with
  | some rest => some (name, rest)
  | none =>
    if name = "export" then do
      let (name, rest) ← name? rest
      let rest ← behindEqual? rest
      some (name, rest)
    else none

/-- The assignment of a line: malformed is the outer `none`, a line without one the inner. -/
def assignment (env earlier : Variables) (line : List Char) : Option (Option (String × String)) :=
  let line := skipBlanks line
  if line.isEmpty || line.head? == some '#' then some none
  else
    match leftSide? line with
    | none => none
    | some (name, rest) =>
      let rest := skipBlanks rest
      if rest.isEmpty || rest.head? == some '#' then some (some (name, ""))
      else (valueFrom env earlier .plain rest).map fun v => some (name, String.ofList v)

/-- Take assignments line by line until one is malformed. Tells whether all were well formed. -/
def applyLines (env earlier : Variables) : List (Option (List Char)) → Bool × Variables
  | [] => (true, env)
  | none :: _ => (false, env)
  | some line :: rest =>
    match assignment env earlier line with
    | none => (false, env)
    | some none => applyLines env earlier rest
    | some (some (name, value)) =>
      let env := if (env.lookup name).isSome then env else env ++ [(name, value)]
      applyLines env ((name, value) :: earlier) rest

/-- The environment after the assignments of a file. -/
def load (env : Variables) (text : String) : Bool × Variables :=
  let chars := match text.toList with
    | '\ufeff' :: rest => rest
    | chars => chars
  applyLines env [] (logicalLines (chars.length + 1) [] .plain chars)

end TwoTier.EnvFile
