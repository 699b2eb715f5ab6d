/-
Settings as a tree of loosely typed values, in which layers are merged before they are read. A later
layer wins setting by setting: tables are merged member by member, anything else is replaced. When a
tree is read, values are converted between numbers, truth values and texts.
-/
import TwoTier.Double.Text
import TwoTier.Json.Parser
import TwoTier.Settings.Reader

namespace TwoTier

/-- A value in a layer of settings. -/
inductive Tree where
  | absent
  | bool (b : Bool)
  | int (i : Int)
  | float (x : Double)
  | text (s : String)
  | list (items : List Tree)
  | table (members : List (String × Tree))
deriving Repr, Inhabited, BEq

namespace Tree

/-- The members of a table; any other value has none. -/
def members : Tree → List (String × Tree)
  | .table ms => ms
  | _ => []

/-- Replace the value of a key, or add one. -/
def update (key : String) (f : Option Tree → Tree) : List (String × Tree) → List (String × Tree)
  | [] => [(key, f none)]
  | (k, v) :: rest => if k = key then (k, f (some v)) :: rest else (k, v) :: update key f rest

mutual

/-- Put a value into the table `base` under a key. A value that is no table becomes an empty one
first; a table is merged into what the key holds. -/
def assign (base : Tree) (key : String) (value : Tree) : Tree :=
  match value with
  | .table ms => .table (update key (fun old => assignAll (.table (old.getD .absent).members) ms) base.members)
  | value => .table (update key (fun _ => value) base.members)

/-- Put each of some values under its key. -/
def assignAll (base : Tree) (ms : List (String × Tree)) : Tree :=
  match ms with
  | [] => base
  | (k, v) :: rest => assignAll (assign base k v) rest

end

/-- Put a value under a path of keys, with tables made on the way. -/
def assignAt (base : Tree) : List String → Tree → Tree
  | [], _ => base
  | [key], value => assign base key value
  | key :: rest, value =>
    .table (update key (fun old => assignAt (.table (old.getD .absent).members) rest value) base.members)

/-! ## Paths -/

/-- A character of a key that a path may name. -/
def isKeyChar (c : Char) : Bool := c.isAlphanum || c = '_' || c = '-'

/-- The keys between the points of a path. A text that is no path is one key as it stands, and so is
one with a subscript, such as `key[0]`: places in lists are not told apart. -/
def path (text : String) : List String :=
  let keys := text.toList.splitOn '.'
  if keys.all fun k => !k.isEmpty && k.all isKeyChar then keys.map String.ofList else [text]

/-- Merge a layer over a tree. The keys of the layer itself may be paths. -/
def merge (base layer : Tree) : Tree := layer.members.foldl (fun t m => t.assignAt (path m.1) m.2) base

/-! ## Conversions -/

/-- Decimal digits, with an optional sign in front. -/
def integerOf? (text : String) : Option Int :=
  let (negative, digits) := match text.toList with
    | '-' :: rest => (true, rest)
    | '+' :: rest => (false, rest)
    | digits => (false, digits)
  if digits.isEmpty || !digits.all Json.isDigit then none
  else
    let n : Int := Json.digitsValue digits
    some (if negative then -n else n)

/-- A number in decimal or the name of one that is not finite. -/
def floatOf? (text : String) : Option Double :=
  let (negative, body) := match text.toList with
    | '-' :: rest => (true, rest)
    | '+' :: rest => (false, rest)
    | body => (false, body)
  let word := asciiLower (String.ofList body)
  if word = "inf" || word = "infinity" then some (Double.infinity.signed negative)
  else if word = "nan" then some (Double.quietNan.signed negative)
  else
    let (whole, rest) := Json.digitRun body
    let (fraction, rest) := match rest with
      | '.' :: rest => Json.digitRun rest
      | rest => ([], rest)
    if whole.isEmpty && fraction.isEmpty then none
    else
      match Json.exponentPart rest with
      | some (e, []) =>
        some (Double.ofDecimal negative (Json.digitsValue (whole ++ fraction)) (e.getD 0 - fraction.length))
      | _ => none

def wordsOn : List String := ["true", "on", "yes"]
def wordsOff : List String := ["false", "off", "no"]

/-- A float as a number that is not negative, cut off at both ends. -/
def natOfFloat (x : Double) : Nat :=
  if x.isNan then 0
  else if !x.isFinite then (if x.isNegative then 0 else maxNat64)
  else min x.round.toNat maxNat64

def nat? : Tree → Option Nat
  | .int i => if 0 ≤ i then some i.toNat else none
  | .bool b => some b.toNat
  | .float x => some (natOfFloat x)
  | .text s =>
    let word := asciiLower s
    if wordsOn.contains word then some 1
    else if wordsOff.contains word then some 0
    else if s.startsWith "-" then none
    else (integerOf? s).bind fun i => if i ≤ maxNat64 then some i.toNat else none
  | _ => none

def bool? : Tree → Option Bool
  | .bool b => some b
  | .int i => some (i != 0)
  | .float x => some (x.isNan || x.isNegative && x.negate != .zero || !x.isNegative && x != .zero)
  | .text s =>
    let word := asciiLower s
    if word = "1" || wordsOn.contains word then some true
    else if word = "0" || wordsOff.contains word then some false
    else none
  | _ => none

def text? : Tree → Option String
  | .text s => some s
  | .bool b => some (if b then "true" else "false")
  | .int i => some (toString i)
  | .float x => some x.plainText
  | _ => none

mutual

/-- The tree of a JSON value. -/
def ofJson : Json → Tree
  | .null => .absent
  | .bool b => .bool b
  | .int i => if i ≤ maxInt64 then .int i else .float (Double.ofInt i)
  | .float x => .float x
  | .str s => .text s
  | .arr items => .list (ofJsons items)
  | .obj ms => .table (ofMembers ms)

def ofJsons : List Json → List Tree
  | [] => []
  | j :: rest => ofJson j :: ofJsons rest

def ofMembers : List (String × Json) → List (String × Tree)
  | [] => []
  | (k, j) :: rest => (k, ofJson j) :: ofMembers rest

end

end Tree

/-- Settings from a tree, with conversions. -/
def SettingsReader.tree : SettingsReader Tree where
  nat? bound t := t.nat?.filter fun n => n ≤ bound
  bool? := Tree.bool?
  text? := Tree.text?
  isAbsent
    | .absent => true
    | _ => false
  fields?
    | .table members => some (.named members)
    | .list items => some (.inOrder items)
    | _ => none
  surplus := true

end TwoTier
