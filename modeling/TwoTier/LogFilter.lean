/-
Log filters: directives separated by commas, each a level, a target, or a target or span with a
level. A directive is read character by character.
-/
import TwoTier.Settings.Tree
import TwoTier.Text

namespace TwoTier.LogFilter

/-- Whether a word is a level, by name or by number. -/
def isLevel (word : String) : Bool :=
  match Tree.integerOf? word with
  | some i => !word.startsWith "-" && decide (i ≤ 5)
  | none => logLevels.contains (asciiLower word)

/-- What has been read of a directive; texts are kept in reverse. -/
inductive State where
  | start
  | levelOrTarget
  | span
  | field (letters : List Char)
  | fields
  | target
  | level (letters : List Char)
deriving Repr, DecidableEq

/-- A directive may start with a letter, a digit or one of these marks. -/
def isStart (c : Char) : Bool := c = '-' || c = ':' || c = '_' || c.isAlphanum || (0x7f < c.toNat && Text.isVisible c)

/-- The state after one more character, if the directive can go on with it. -/
def State.next : State → Char → Option State
  | .start, '[' => some .span
  | .start, c => if isStart c then some .levelOrTarget else none
  | .levelOrTarget, '=' => some (.level [])
  | .levelOrTarget, '[' => some .span
  | .levelOrTarget, _ => some .levelOrTarget
  | .target, '=' => some (.level [])
  | .target, _ => none
  | .span, ']' => some .target
  | .span, '\x7b' => some (.field [])
  | .span, _ => some .span
  | .field [], '\x7d' => none
  | .field _, '\x7d' => some .fields
  | .field letters, c => some (.field (c :: letters))
  | .fields, ']' => some .target
  | .fields, _ => none
  | .level letters, c => some (.level (c :: letters))

/-- Whether a directive may end in a state. -/
def State.accepts : State → Bool
  | .levelOrTarget => true
  | .target => true
  | .level letters => letters.isEmpty || isLevel (String.ofList letters.reverse)
  | _ => false

def trim (text : List Char) : List Char := ((text.dropWhile Text.isBlank).reverse.dropWhile Text.isBlank).reverse

def isDirective (text : String) : Bool :=
  match (trim text.toList).foldlM State.next .start with
  | some s => s.accepts
  | none => false

/-- Whether every directive of a filter can be read; empty ones are passed over. -/
def isValid (filter : String) : Bool := (filter.splitOn ",").all fun d => d.isEmpty || isDirective d

/-- Check a filter; the error quotes it. -/
def check (filter : String) : Except String Unit :=
  if isValid filter then .ok () else .error ("invalid log level " ++ Text.quoted filter)

end TwoTier.LogFilter
