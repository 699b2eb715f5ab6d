/-
Settings in TOML. A document is read statement by statement into a table of nodes that remember how
they were made, because a table may be opened once, a value defined once, and a table written inline
is closed to later additions.
-/
import TwoTier.Settings.Tree

namespace TwoTier.Toml

/-! ## Characters -/

def isSpace (c : Char) : Bool := c = ' ' || c = '\t'

def skipSpace (text : List Char) : List Char := text.dropWhile isSpace

/-- A control character other than the tab. -/
def isControl (c : Char) : Bool := (c.toNat < 0x20 && c != '\t') || c.toNat = 0x7f

/-- The text behind a line end. -/
def lineEnd? : List Char → Option (List Char)
  | '\n' :: rest => some rest
  | '\r' :: '\n' :: rest => some rest
  | _ => none

/-- The text behind a comment, if there is one; a comment has no control characters. -/
def skipComment (text : List Char) : Option (List Char) :=
  match text with
  | '#' :: rest =>
    let body := rest.takeWhile fun c => c != '\n' && !isControl c
    let rest := rest.drop body.length
    match rest with
    | [] => some []
    | rest => if (lineEnd? rest).isSome then some rest else none
  | text => some text

/-- Blanks, comments and line ends, as they may stand between the items of an array. -/
def skipLines : Nat → List Char → Option (List Char)
  | 0, text => some text
  | fuel + 1, text =>
    match skipComment (skipSpace text) with
    | none => none
    | some text =>
      match lineEnd? text with
      | some rest => skipLines fuel rest
      | none => some text

/-! ## Strings -/

/-- The character of a numeric escape. -/
def escapedChar? (digits : List Char) : Option Char :=
  match digits.mapM Json.hexDigit? with
  | none => none
  | some ds =>
    let n := ds.foldl (fun n d => n * 16 + d) 0
    if n < 0xd800 ∨ (0xdfff < n ∧ n < 0x110000) then some (Char.ofNat n) else none

/-- The character that a backslash and what follows stand for. -/
def escape? (text : List Char) : Option (Char × List Char) :=
  match text with
  | 'b' :: rest => some ('\x08', rest)
  | 't' :: rest => some ('\t', rest)
  | 'n' :: rest => some ('\n', rest)
  | 'f' :: rest => some ('\x0c', rest)
  | 'r' :: rest => some ('\r', rest)
  | '"' :: rest => some ('"', rest)
  | '\\' :: rest => some ('\\', rest)
  | 'u' :: rest =>
    if rest.length < 4 then none else (escapedChar? (rest.take 4)).map fun c => (c, rest.drop 4)
  | 'U' :: rest =>
    if rest.length < 8 then none else (escapedChar? (rest.take 8)).map fun c => (c, rest.drop 8)
  | _ => none

/-- The rest of a string in double quotes on one line. -/
def basic : Nat → List Char → Option (List Char × List Char)
  | 0, _ => none
  | fuel + 1, text =>
    match text with
    | '"' :: rest => some ([], rest)
    | '\\' :: rest =>
      match escape? rest with
      | none => none
      | some (c, rest) => (basic fuel rest).map fun (cs, rest) => (c :: cs, rest)
    | c :: rest =>
      if isControl c then none else (basic fuel rest).map fun (cs, rest) => (c :: cs, rest)
    | [] => none

/-- The rest of a string in single quotes on one line. -/
def literal (text : List Char) : Option (List Char × List Char) :=
  let body := text.takeWhile fun c => c != '\'' && !isControl c
  match text.drop body.length with
  | '\'' :: rest => some (body, rest)
  | _ => none

/-- Quotes at the end of a string over several lines: three close it, and one or two more before
them belong to it. -/
def closing (quote : Char) (text : List Char) : Option (List Char × List Char) :=
  let quotes := text.takeWhile (· == quote)
  if quotes.length < 3 then none
  else
    let n := min quotes.length 5
    some (List.replicate (n - 3) quote, text.drop n)

/-- Blanks and line ends behind a backslash at the end of a line. -/
def skipFold (text : List Char) : List Char :=
  text.dropWhile fun c => isSpace c || c = '\n' || c = '\r'

/-- The rest of a string over several lines; escapes count if `escapes` is set. -/
def multiline (quote : Char) (escapes : Bool) : Nat → List Char → Option (List Char × List Char)
  | 0, _ => none
  | fuel + 1, text =>
    match closing quote text with
    | some (tail, rest) => some (tail, rest)
    | none =>
      match text with
      | [] => none
      | '\r' :: '\n' :: rest => (multiline quote escapes fuel rest).map fun (cs, rest) => ('\n' :: cs, rest)
      | '\n' :: rest => (multiline quote escapes fuel rest).map fun (cs, rest) => ('\n' :: cs, rest)
      | c :: rest =>
        if escapes && c = '\\' then
          match lineEnd? (skipSpace rest) with
          | some rest => multiline quote escapes fuel (skipFold rest)
          | none =>
            match escape? rest with
            | none => none
            | some (c, rest) => (multiline quote escapes fuel rest).map fun (cs, rest) => (c :: cs, rest)
        else if isControl c then none
        else (multiline quote escapes fuel rest).map fun (cs, rest) => (c :: cs, rest)

/-- A line end right behind the opening quotes is left out. -/
def dropFirstLineEnd (text : List Char) : List Char := (lineEnd? text).getD text

/-- A string of any of the four forms. -/
def string? (text : List Char) : Option (String × List Char) :=
  let fuel := text.length + 1
  let read : Option (List Char × List Char) :=
    match text with
    | '"' :: '"' :: '"' :: rest => multiline '"' true fuel (dropFirstLineEnd rest)
    | '"' :: rest => basic fuel rest
    | '\'' :: '\'' :: '\'' :: rest => multiline '\'' false fuel (dropFirstLineEnd rest)
    | '\'' :: rest => literal rest
    | _ => none
  read.map fun (cs, rest) => (String.ofList cs, rest)

/-! ## Keys -/

def isBareKeyChar (c : Char) : Bool := (c.isAlphanum && c.toNat < 128) || c = '_' || c = '-'

/-- One key: bare, or a string on one line. -/
def simpleKey (text : List Char) : Option (String × List Char) :=
  match text with
  | '"' :: rest => (basic (rest.length + 1) rest).map fun (cs, rest) => (String.ofList cs, rest)
  | '\'' :: rest => (literal rest).map fun (cs, rest) => (String.ofList cs, rest)
  | text =>
    let key := text.takeWhile isBareKeyChar
    if key.isEmpty then none else some (String.ofList key, text.drop key.length)

/-- Keys with points between them. -/
def dottedKey : Nat → List Char → Option (List String × List Char)
  | 0, _ => none
  | fuel + 1, text =>
    match simpleKey (skipSpace text) with
    | none => none
    | some (key, rest) =>
      match skipSpace rest with
      | '.' :: rest => (dottedKey fuel rest).map fun (keys, rest) => (key :: keys, rest)
      | rest => some ([key], rest)

/-! ## Numbers, truth values and dates -/

/-- Digits with single underscores between them, without the underscores. -/
def groupedDigits (isDigit : Char → Bool) (text : List Char) : Option (List Char) :=
  match text with
  | [] => none
  | [c] => if isDigit c then some [c] else none
  | c :: '_' :: rest => if isDigit c then (groupedDigits isDigit rest).map (c :: ·) else none
  | c :: rest => if isDigit c then (groupedDigits isDigit rest).map (c :: ·) else none

/-- An integer that 64 bits hold. -/
def inRange? (i : Int) : Option Tree := if minInt64 ≤ i ∧ i ≤ maxInt64 then some (.int i) else none

/-- An integer in base two, eight or sixteen, behind its marker. -/
def basedInteger? (base : Nat) (digits : List Char) : Option Tree :=
  let isDigit (c : Char) : Bool :=
    match Json.hexDigit? c with
    | some d => d < base
    | none => false
  (groupedDigits isDigit digits).bind fun ds =>
    inRange? ((ds.filterMap Json.hexDigit?).foldl (fun n d => n * base + d) 0 : Nat)

/-- Digits of a decimal number that do not start with a zero unless they are one. -/
def plainDigits? (text : List Char) : Option (List Char) :=
  (groupedDigits Json.isDigit text).filter fun ds => ds.length = 1 || ds.head? != some '0'

/-- A decimal number: an integer, or a float with a fraction, an exponent or both. -/
def decimal? (negative : Bool) (text : List Char) : Option Tree :=
  let whole := text.takeWhile fun c => Json.isDigit c || c = '_'
  let rest := text.drop whole.length
  match plainDigits? whole with
  | none => none
  | some whole =>
    if rest.isEmpty then
      let n : Int := Json.digitsValue whole
      inRange? (if negative then -n else n)
    else
      let fractionAndRest : Option (List Char × List Char) :=
        match rest with
        | '.' :: rest =>
          let digits := rest.takeWhile fun c => Json.isDigit c || c = '_'
          (groupedDigits Json.isDigit digits).map fun ds => (ds, rest.drop digits.length)
        | rest => some ([], rest)
      match fractionAndRest with
      | none => none
      | some (fraction, rest) =>
        let exponent : Option Int :=
          match rest with
          | [] => some 0
          | c :: rest =>
            if c = 'e' || c = 'E' then
              let (down, digits) := match rest with
                | '-' :: digits => (true, digits)
                | '+' :: digits => (false, digits)
                | digits => (false, digits)
              (groupedDigits Json.isDigit digits).map fun ds =>
                let n : Int := Json.digitsValue ds
                if down then -n else n
            else none
        exponent.bind fun e =>
          let x := Double.ofDecimal negative (Json.digitsValue (whole ++ fraction)) (e - fraction.length)
          if x.isFinite then some (.float x) else none

/-- A number with its sign. -/
def number? (text : List Char) : Option Tree :=
  match text with
  | '0' :: 'x' :: digits => basedInteger? 16 digits
  | '0' :: 'o' :: digits => basedInteger? 8 digits
  | '0' :: 'b' :: digits => basedInteger? 2 digits
  | _ =>
    let (negative, body) := match text with
      | '-' :: body => (true, body)
      | '+' :: body => (false, body)
      | body => (false, body)
    if body = ['i', 'n', 'f'] then some (.float (Double.infinity.signed negative))
    else if body = ['n', 'a', 'n'] then some (.float (Double.quietNan.signed negative))
    else decimal? negative body

/-- So many digits and the number they write. -/
def fixedDigits (n : Nat) (text : List Char) : Option (Nat × List Char) :=
  let ds := text.take n
  if ds.length = n && ds.all Json.isDigit then some (Json.digitsValue ds, text.drop n) else none

def daysIn (year month : Nat) : Nat :=
  if month = 2 then
    if year % 4 = 0 && (year % 100 != 0 || year % 400 = 0) then 29 else 28
  else if month = 4 || month = 6 || month = 9 || month = 11 then 30 else 31

/-- A date, as it is written. -/
def date? (text : List Char) : Option (List Char × List Char) := do
  let (year, rest) ← fixedDigits 4 text
  let rest ← match rest with
    | '-' :: rest => some rest
    | _ => none
  let (month, rest) ← fixedDigits 2 rest
  let rest ← match rest with
    | '-' :: rest => some rest
    | _ => none
  let (day, rest) ← fixedDigits 2 rest
  if 1 ≤ month ∧ month ≤ 12 ∧ 1 ≤ day ∧ day ≤ daysIn year month then some (text.take 10, rest) else none

/-- A time of day, as it is written; a fraction of a second keeps nine digits at most and no zeros at
its end. -/
def time? (text : List Char) : Option (List Char × List Char) := do
  let (hour, rest) ← fixedDigits 2 text
  let rest ← match rest with
    | ':' :: rest => some rest
    | _ => none
  let (minute, rest) ← fixedDigits 2 rest
  let rest ← match rest with
    | ':' :: rest => some rest
    | _ => none
  let (second, rest) ← fixedDigits 2 rest
  if 23 < hour ∨ 59 < minute ∨ 60 < second then none
  match rest with
  | '.' :: rest =>
    let ds := rest.takeWhile Json.isDigit
    if ds.isEmpty then none
    let kept := ((ds.take 9).reverse.dropWhile (· == '0')).reverse
    some (text.take 8 ++ (if kept.isEmpty then [] else '.' :: kept), rest.drop ds.length)
  | rest => some (text.take 8, rest)

/-- The offset behind a date and time, if one is written. -/
def offset? (text : List Char) : Option (List Char) :=
  match text with
  | [] => some []
  | ['Z'] => some ['Z']
  | ['z'] => some ['Z']
  | sign :: rest =>
    if sign = '+' || sign = '-' then do
      let (hour, behind) ← fixedDigits 2 rest
      let behind ← match behind with
        | ':' :: behind => some behind
        | _ => none
      let (minute, behind) ← fixedDigits 2 behind
      if behind.isEmpty ∧ hour ≤ 23 ∧ minute ≤ 59 then some text else none
    else none

/-- A date, a time of day, or both, as text with a `T` between them. -/
def moment? (text : List Char) : Option Tree :=
  match date? text with
  | some (date, []) => some (.text (String.ofList date))
  | some (date, c :: rest) =>
    if c = 'T' || c = 't' || c = ' ' then
      match time? rest with
      | some (time, rest) => (offset? rest).map fun o => .text (String.ofList (date ++ 'T' :: time ++ o))
      | none => none
    else none
  | none =>
    match time? text with
    | some (time, []) => some (.text (String.ofList time))
    | _ => none

/-- The characters of a value that is no string, array or table. A date and a time may have one
blank between them. -/
def scalarChars (text : List Char) : List Char :=
  let stops (c : Char) : Bool := isSpace c || c = ',' || c = ']' || c = '\x7d' || c = '#' || c = '\n' || c = '\r'
  let first := text.takeWhile fun c => !stops c
  let rest := text.drop first.length
  match date? first, rest with
  | some (_, []), ' ' :: d :: rest =>
    if Json.isDigit d then first ++ ' ' :: (d :: rest).takeWhile fun c => !stops c else first
  | _, _ => first

def scalar? (text : List Char) : Option (Tree × List Char) :=
  let chars := scalarChars text
  let value : Option Tree :=
    if chars = ['t', 'r', 'u', 'e'] then some (.bool true)
    else if chars = ['f', 'a', 'l', 's', 'e'] then some (.bool false)
    else match number? chars with
      | some v => some v
      | none => moment? chars
  value.map fun v => (v, text.drop chars.length)

/-! ## Tables under construction -/

/-- A value of the document while it is read. -/
inductive Node where
  | value (v : Tree)
  /-- A table that was made on the way to another one. -/
  | implicit (members : List (String × Node))
  /-- A table with a header of its own. -/
  | header (members : List (String × Node))
  /-- A table made by a key with points in it. -/
  | dotted (members : List (String × Node))
  /-- Tables with a header in double brackets, the last one first. -/
  | array (tables : List (List (String × Node)))
deriving Inhabited

mutual

def Node.tree : Node → Tree
  | .value v => v
  | .implicit ms => .table (Node.trees ms)
  | .header ms => .table (Node.trees ms)
  | .dotted ms => .table (Node.trees ms)
  | .array tables => .list (Node.tables tables).reverse

def Node.trees : List (String × Node) → List (String × Tree)
  | [] => []
  | (k, n) :: rest => (k, n.tree) :: Node.trees rest

def Node.tables : List (List (String × Node)) → List Tree
  | [] => []
  | ms :: rest => .table (Node.trees ms) :: Node.tables rest

end

abbrev Members := List (String × Node)

/-- Change what a key holds; the change may be refused. -/
def change (ms : Members) (key : String) (f : Option Node → Option Node) : Option Members :=
  match ms with
  | [] => (f none).map fun n => [(key, n)]
  | (k, n) :: rest =>
    if k = key then (f (some n)).map fun n => (k, n) :: rest
    else (change rest key f).map fun rest => (k, n) :: rest

/-- Define a value under keys with points between them. Tables on the way are made by this statement
or an earlier one like it, never by a header. -/
def define : Members → List String → Tree → Option Members
  | _, [], _ => none
  | ms, [key], v =>
    change ms key fun
      | none => some (.value v)
      | some _ => none
  | ms, key :: rest, v =>
    change ms key fun
      | none => (define [] rest v).map .dotted
      | some (.dotted inner) => (define inner rest v).map .dotted
      | some (.implicit inner) => (define inner rest v).map .implicit
      | some _ => none

/-- Open the table of a header. -/
def openTable : Members → List String → Option Members
  | _, [] => none
  | ms, [key] =>
    change ms key fun
      | none => some (.header [])
      | some (.implicit inner) => some (.header inner)
      | some _ => none
  | ms, key :: rest =>
    change ms key fun
      | none => (openTable [] rest).map .implicit
      | some (.implicit inner) => (openTable inner rest).map .implicit
      | some (.header inner) => (openTable inner rest).map .header
      | some (.dotted inner) => (openTable inner rest).map .dotted
      | some (.array (last :: before)) => (openTable last rest).map fun last => .array (last :: before)
      | some _ => none

/-- Open one more table of an array of tables. -/
def openItem : Members → List String → Option Members
  | _, [] => none
  | ms, [key] =>
    change ms key fun
      | none => some (.array [[]])
      | some (.array tables) => some (.array ([] :: tables))
      | some _ => none
  | ms, key :: rest =>
    change ms key fun
      | none => (openItem [] rest).map .implicit
      | some (.implicit inner) => (openItem inner rest).map .implicit
      | some (.header inner) => (openItem inner rest).map .header
      | some (.dotted inner) => (openItem inner rest).map .dotted
      | some (.array (last :: before)) => (openItem last rest).map fun last => .array (last :: before)
      | some _ => none

/-- Define a value in the table that a header opened. -/
def defineIn : Members → List String → List String → Tree → Option Members
  | ms, [], keys, v => define ms keys v
  | ms, key :: rest, keys, v =>
    change ms key fun
      | some (.implicit inner) => (defineIn inner rest keys v).map .implicit
      | some (.header inner) => (defineIn inner rest keys v).map .header
      | some (.dotted inner) => (defineIn inner rest keys v).map .dotted
      | some (.array (last :: before)) => (defineIn last rest keys v).map fun last => .array (last :: before)
      | _ => none

/-! ## Values and statements -/

mutual

/-- A value at the start of the text. -/
def value : Nat → List Char → Option (Tree × List Char)
  | 0, _ => none
  | fuel + 1, text =>
    match text with
    | '"' :: _ => (string? text).map fun (s, rest) => (.text s, rest)
    | '\'' :: _ => (string? text).map fun (s, rest) => (.text s, rest)
    | '[' :: rest => (items fuel rest).map fun (vs, rest) => (.list vs, rest)
    | '\x7b' :: rest =>
      match skipSpace rest with
      | '\x7d' :: rest => some (.table [], rest)
      | rest => (inlineMembers fuel [] rest).map fun (ms, rest) => (.table (Node.trees ms), rest)
    | text => scalar? text

/-- The rest of an array. -/
def items : Nat → List Char → Option (List Tree × List Char)
  | 0, _ => none
  | fuel + 1, text =>
    match skipLines text.length text with
    | none => none
    | some (']' :: rest) => some ([], rest)
    | some text =>
      match value fuel text with
      | none => none
      | some (v, rest) =>
        match skipLines rest.length rest with
        | some (',' :: rest) => (items fuel rest).map fun (vs, rest) => (v :: vs, rest)
        | some (']' :: rest) => some ([v], rest)
        | _ => none

/-- The rest of an inline table that has at least one more member. -/
def inlineMembers : Nat → Members → List Char → Option (Members × List Char)
  | 0, _, _ => none
  | fuel + 1, ms, text =>
    match dottedKey (text.length + 1) text with
    | some (keys, '=' :: rest) =>
      match value fuel (skipSpace rest) with
      | none => none
      | some (v, rest) =>
        match define ms keys v with
        | none => none
        | some ms =>
          match skipSpace rest with
          | '\x7d' :: rest => some (ms, rest)
          | ',' :: rest => inlineMembers fuel ms rest
          | _ => none
    | _ => none

end

/-- The end of a line behind a statement. -/
def lineRest (text : List Char) : Option (List Char) :=
  match skipComment (skipSpace text) with
  | none => none
  | some [] => some []
  | some text => lineEnd? text

/-- The statements of a document, from the current table on. -/
def statements : Nat → Members → List String → List Char → Option Members
  | 0, _, _, _ => none
  | fuel + 1, doc, current, text =>
    match skipLines (text.length + 1) text with
    | none => none
    | some [] => some doc
    | some ('[' :: '[' :: rest) =>
      match dottedKey (rest.length + 1) rest with
      | some (keys, ']' :: ']' :: rest) =>
        match openItem doc keys, lineRest rest with
        | some doc, some rest => statements fuel doc keys rest
        | _, _ => none
      | _ => none
    | some ('[' :: rest) =>
      match dottedKey (rest.length + 1) rest with
      | some (keys, ']' :: rest) =>
        match openTable doc keys, lineRest rest with
        | some doc, some rest => statements fuel doc keys rest
        | _, _ => none
      | _ => none
    | some text =>
      match dottedKey (text.length + 1) text with
      | some (keys, '=' :: rest) =>
        match value (rest.length + 1) (skipSpace rest) with
        | none => none
        | some (v, rest) =>
          match defineIn doc current keys v, lineRest rest with
          | some doc, some rest => statements fuel doc current rest
          | _, _ => none
      | _ => none

/-- The settings of a document. A mark of byte order in front of it does not count. -/
def parse (text : String) : Option Tree :=
  let chars := text.toList
  let chars := match chars with
    | '\ufeff' :: rest => rest
    | chars => chars
  (statements (chars.length + 1) [] [] chars).map fun ms => .table (Node.trees ms)

end TwoTier.Toml
