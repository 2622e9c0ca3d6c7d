/-
# TOML values

A document is a table: keys with values. Tables that a document spells out in
several places are kept apart by how they came to be, because that decides
what may still be added to them. Numbers are kept as they are written. A
decimal is a mantissa and a power of ten; it counts as infinite when the
nearest double is.

Values are read by readers. A reader takes something off the front of a list
of characters and leaves the rest, or takes nothing and fails. When the first
of two alternatives fails the second starts where the first did. Repetition is
bounded by the length of the text: every reader that is repeated here takes at
least one character, so the bound is never felt.

A basic string stands in double quotes and knows escapes; a literal string
stands in single quotes and knows none. Both may be tripled, and then run over
several lines: a line break right after the opening quotes is dropped, every
other one counts as a line feed, and up to two quotes may stand anywhere, the
end included. In a tripled basic string a backslash at the end of a line
swallows the white space up to the next character.

An integer is decimal with an optional sign and no leading zeros, or
hexadecimal, octal or binary behind a prefix in lower case and without a sign;
it has to fit into 64 bits. A real has a fraction, an exponent or both, or is
one of the words for infinity and for no number; a positive decimal that is
too large for a double is refused. Underscores may stand between digits.

A date is `year-month-day` with a day that its month has; a time is
`hour:minute:second` with an optional fraction, and the second may be a leap
second. Between a date and its time stands a `T` or a space; a space that no
time follows belongs to what comes after the date. Only a date with a time may
have an offset.

Key definitions: `Toml.Value`, `Toml.Table`, `Toml.Form`, `Toml.Reader`,
`Toml.quoted`, `Toml.integer`, `Toml.real`, `Toml.dateTime`.
-/
namespace ComputeContext.Toml

/-- A real number as it is written. -/
inductive Real
  | infinity (negative : Bool)
  | notANumber
  /-- The mantissa times ten to the exponent. -/
  | decimal (negative : Bool) (mantissa : Nat) (exponent : Int)
deriving DecidableEq, Repr

/-- The least integer whose nearest double is infinite: it lies half a step above the largest
double. -/
def overflowBound : Nat := 1 <<< 1024 - 1 <<< 970

/-- A mantissa times ten to an exponent reaches the bound. The number of digits decides unless the
number has just as many digits before the point as the bound, so no large power is computed. -/
def overflows (mantissa : Nat) (exponent : Int) : Bool :=
  let magnitude : Int := (Nat.toDigits 10 mantissa).length + exponent
  if mantissa == 0 || magnitude < 309 then false
  else if magnitude > 309 then true
  else if exponent ≥ 0 then mantissa * Nat.pow 10 exponent.toNat ≥ overflowBound
  else mantissa ≥ overflowBound * Nat.pow 10 (-exponent).toNat

/-- A day. -/
structure Date where
  year : Nat
  month : Nat
  day : Nat
deriving DecidableEq, Repr

/-- A time of day; the fraction of a second is kept as its digits. -/
structure Time where
  hour : Nat
  minute : Nat
  second : Nat
  fraction : List Nat
deriving DecidableEq, Repr

/-- How a local time lies to universal time. -/
inductive Offset
  | universal
  | minutes (east : Int)
deriving DecidableEq, Repr

/-- A date, a time or both, and then perhaps an offset. -/
inductive DateTime
  | date (d : Date)
  | time (t : Time)
  | both (d : Date) (t : Time) (offset : Option Offset)
deriving DecidableEq, Repr

/-- How a table came to be. -/
inductive Form
  /-- Written in braces: complete. -/
  | inlined
  /-- Named by a header of its own. -/
  | header
  /-- Named only as a parent in a header. -/
  | implied
  /-- Named as a parent in a dotted key. -/
  | dotted
deriving DecidableEq, Repr

/-- A value. -/
inductive Value
  | string (s : String)
  | integer (n : Int)
  | real (x : Real)
  | boolean (b : Bool)
  | dateTime (t : DateTime)
  | array (elements : List Value)
  | table (form : Form) (entries : List (String × Value))
  /-- Tables that were each given by a double header. -/
  | rows (tables : List (List (String × Value)))

/-- Keys with values. -/
abbrev Table := List (String × Value)

/-- The value of a key. -/
def Table.get? (t : Table) (key : String) : Option Value := t.lookup key

/-- The table with the value of a key replaced, or added at the end. -/
def Table.put : Table → String → Value → Table
  | [], key, v => [(key, v)]
  | (k, old) :: rest, key, v =>
    if k = key then (k, v) :: rest else (k, old) :: Table.put rest key v

/-! ### Readers of text -/

/-- Takes a value off the front of a text, or fails. -/
abbrev Reader := StateT (List Char) Option

namespace Reader

variable {α β : Type}

/-- One character of a class. -/
def one (p : Char → Bool) : Reader Char
  | [] => none
  | c :: cs => if p c then some (c, cs) else none

/-- Exactly this character. -/
def char (c : Char) : Reader Char := one (· == c)

/-- Exactly this text. -/
def literal (s : String) : Reader Unit := s.toList.forM fun c => discard (char c)

/-- As many characters of a class as there are. -/
def run (p : Char → Bool) : Reader (List Char) := fun cs => some (cs.takeWhile p, cs.dropWhile p)

/-- One or more characters of a class. -/
def run1 (p : Char → Bool) : Reader (List Char) := do
  let c ← one p
  return c :: (← run p)

/-- Exactly `n` characters of a class. -/
def exactly (p : Char → Bool) : Nat → Reader (List Char)
  | 0 => pure []
  | n + 1 => do
    let c ← one p
    return c :: (← exactly p n)

/-- What a reader takes, or nothing if it fails. -/
def maybe (r : Reader α) : Reader (Option α) := (some <$> r) <|> pure none

/-- A reader again and again until it fails, at most `n` times. -/
def atMost (r : Reader α) : Nat → Reader (List α)
  | 0 => pure []
  | n + 1 => do
    match ← maybe r with
    | none => pure []
    | some a => return a :: (← atMost r n)

/-- A reader again and again until it fails; it takes something each time. -/
def many (r : Reader α) : Reader (List α) := fun cs => atMost r cs.length cs

/-- One or more values with a separator between them. -/
def separated1 (r : Reader α) (sep : Reader β) : Reader (List α) := do
  let first ← r
  return first :: (← many (sep *> r))

/-- Values with a separator between them. -/
def separated (r : Reader α) (sep : Reader β) : Reader (List α) :=
  separated1 r sep <|> pure []

/-- A value that passes a check. -/
def filtered (r : Reader α) (p : α → Bool) : Reader α := do
  let a ← r
  if p a then pure a else failure

/-- Succeeds at the end of the text only. -/
def finish : Reader Unit := fun cs => if cs.isEmpty then some ((), cs) else none

/-- Succeeds where the reader would, and takes nothing. -/
def ahead (r : Reader α) : Reader α := fun cs => (r cs).map fun x => (x.1, cs)

/-- What a reader makes of a whole text. -/
def all (r : Reader α) (s : String) : Option α := (r <* finish).run' s.toList

end Reader

/-! ### Strings -/

open Reader

/-- A space or a tab. -/
def isBlankChar (c : Char) : Bool := c == ' ' || c == '\t'

/-- Not one of the first 128 characters. -/
def isNonAscii (c : Char) : Bool := c.toNat ≥ 0x80

/-- The characters that may stand in a comment and, but for quotes and the backslash, in a string:
no control characters but the tab. -/
def isPlain (c : Char) : Bool := c == '\t' || (' ' ≤ c && c ≤ '~') || isNonAscii c

/-- Blanks on one line. -/
def blanks : Reader Unit := discard (run isBlankChar)

/-- A line break; a carriage return counts only before a line feed. -/
def newline : Reader Unit := discard (char '\n') <|> discard (char '\r' *> char '\n')

/-- The value of a hexadecimal digit. -/
def hexDigit? (c : Char) : Option Nat :=
  if '0' ≤ c ∧ c ≤ '9' then some (c.toNat - '0'.toNat)
  else if 'a' ≤ c ∧ c ≤ 'f' then some (c.toNat - 'a'.toNat + 10)
  else if 'A' ≤ c ∧ c ≤ 'F' then some (c.toNat - 'A'.toNat + 10)
  else none

/-- The number that digits stand for. -/
def ofDigits (base : Nat) (cs : List Char) : Nat :=
  cs.foldl (fun n c => n * base + (hexDigit? c).getD 0) 0

/-- The character with the code that `n` hexadecimal digits give. -/
def codePoint (n : Nat) : Reader Char := do
  let code := ofDigits 16 (← exactly (fun c => (hexDigit? c).isSome) n)
  if code.isValidChar then pure (Char.ofNat code) else failure

/-- What follows the backslash of an escape. -/
def escaped : Reader Char := do
  match ← one fun _ => true with
  | 'b' => pure '\x08'
  | 't' => pure '\t'
  | 'n' => pure '\n'
  | 'f' => pure '\x0c'
  | 'r' => pure '\r'
  | '"' => pure '"'
  | '\\' => pure '\\'
  | 'u' => codePoint 4
  | 'U' => codePoint 8
  | _ => failure

/-- A character of a basic string that stands for itself. -/
def isBasic (c : Char) : Bool := isPlain c && c != '"' && c != '\\'

/-- A character of a literal string. -/
def isLiteral (c : Char) : Bool := isPlain c && c != '\''

/-- A basic string on one line. -/
def basicString : Reader (List Char) := do
  discard (char '"')
  let cs ← many (one isBasic <|> char '\\' *> escaped)
  discard (char '"')
  return cs

/-- A literal string on one line. -/
def literalString : Reader (List Char) := do
  discard (char '\'')
  let cs ← run isLiteral
  discard (char '\'')
  return cs

/-- One or two quotes with something else after them. -/
def innerQuotes (quote : Char) : Reader (List Char) := do
  let quotes ← run1 (· == quote)
  discard (ahead (one fun _ => true))
  if quotes.length ≤ 2 then pure quotes else failure

/-- The closing quotes, and up to two quotes before them. -/
def closingQuotes (quote : Char) : Reader (List Char) := do
  let quotes ← run (· == quote)
  if 3 ≤ quotes.length ∧ quotes.length ≤ 5 then pure (quotes.drop 3) else failure

/-- A tripled string, given what may stand in it besides quotes and line breaks. -/
def tripled (quote : Char) (part : Reader (List Char)) : Reader (List Char) := do
  literal (String.ofList [quote, quote, quote])
  discard (maybe newline)
  let parts ← many (part <|> (newline *> pure ['\n']) <|> innerQuotes quote)
  return parts.flatten ++ (← closingQuotes quote)

/-- A backslash at the end of a line, and all white space up to the next character. -/
def lineContinuation : Reader (List Char) := do
  discard (char '\\')
  blanks
  newline
  discard (many (discard (one isBlankChar) <|> newline))
  return []

/-- A basic string over several lines. -/
def basicLines : Reader (List Char) :=
  tripled '"' (run1 isBasic <|> lineContinuation <|> (char '\\' *> (([·]) <$> escaped)))

/-- A literal string over several lines. -/
def literalLines : Reader (List Char) := tripled '\'' (run1 isLiteral)

/-- A string on one line, as keys use them. -/
def singleLine : Reader String := String.ofList <$> (basicString <|> literalString)

/-- A string of any kind. -/
def quoted : Reader String :=
  String.ofList <$> (basicLines <|> literalLines <|> basicString <|> literalString)

/-! ### Numbers -/

/-- A digit of a base up to sixteen. -/
def isDigitOf (base : Nat) (c : Char) : Bool := (hexDigit? c).any (· < base)

/-- One or more digits, single underscores between them. -/
def digits (base : Nat) : Reader (List Char) := do
  let first ← one (isDigitOf base)
  let rest ← many (maybe (char '_') *> one (isDigitOf base))
  return first :: rest

/-- A sign; true for minus. -/
def sign : Reader Bool := do
  match ← maybe (char '-' <|> char '+') with
  | some c => pure (c == '-')
  | none => pure false

/-- The digits of a decimal integer: a zero on its own, or digits that start with none. -/
def wholeDigits : Reader (List Char) :=
  (([·]) <$> char '0') <|> digits 10

/-- The integers of 64 bits. -/
def fitsWord (n : Int) : Bool := Int64.minValue.toInt ≤ n && n ≤ Int64.maxValue.toInt

/-- An integer behind a prefix. -/
def prefixed (mark : String) (base : Nat) : Reader Int := do
  literal mark
  return ofDigits base (← digits base)

/-- A decimal integer. -/
def decimal : Reader Int := do
  let negative ← sign
  let n : Int := ofDigits 10 (← wholeDigits)
  return if negative then -n else n

/-- An integer. -/
def integer : Reader Int :=
  filtered (prefixed "0x" 16 <|> prefixed "0o" 8 <|> prefixed "0b" 2 <|> decimal) fitsWord

/-- The exponent of a real. -/
def exponent : Reader Int := do
  discard (char 'e' <|> char 'E')
  let negative ← sign
  let n : Int := ofDigits 10 (← digits 10)
  return if negative then -n else n

/-- A real with a fraction, an exponent or both. -/
def decimalReal : Reader Real := do
  let negative ← sign
  let whole ← wholeDigits
  let fraction ← maybe (char '.' *> digits 10)
  let power ← if fraction.isSome then maybe exponent else some <$> exponent
  let fraction := fraction.getD []
  let mantissa := ofDigits 10 (whole ++ fraction)
  let power := power.getD 0 - fraction.length
  if !negative && overflows mantissa power then failure
  return .decimal negative mantissa power

/-- The words for infinity and for no number. -/
def wordReal : Reader Real := do
  let negative ← sign
  (literal "inf" *> pure (.infinity negative)) <|> (literal "nan" *> pure .notANumber)

/-- A real. -/
def real : Reader Real := decimalReal <|> wordReal

/-! ### Dates and times -/

/-- A number of exactly `n` decimal digits. -/
def fixed (n : Nat) : Reader Nat := ofDigits 10 <$> exactly Char.isDigit n

/-- The year has a 29th of February. -/
def isLeapYear (year : Nat) : Bool := year % 4 == 0 && (year % 100 != 0 || year % 400 == 0)

/-- The days of a month. -/
def daysIn (year month : Nat) : Nat :=
  if month == 2 then (if isLeapYear year then 29 else 28)
  else if month == 4 || month == 6 || month == 9 || month == 11 then 30
  else 31

/-- A date. -/
def date : Reader Date := do
  let year ← fixed 4
  discard (char '-')
  let month ← filtered (fixed 2) fun m => 1 ≤ m && m ≤ 12
  discard (char '-')
  let day ← filtered (fixed 2) fun d => 1 ≤ d && d ≤ daysIn year month
  return ⟨year, month, day⟩

/-- Hour and minute. -/
def hourMinute : Reader (Nat × Nat) := do
  let hour ← filtered (fixed 2) (· ≤ 23)
  discard (char ':')
  let minute ← filtered (fixed 2) (· ≤ 59)
  return (hour, minute)

/-- A time of day. -/
def time : Reader Time := do
  let (hour, minute) ← hourMinute
  discard (char ':')
  let second ← filtered (fixed 2) (· ≤ 60)
  let fraction ← maybe (char '.' *> run1 Char.isDigit)
  return ⟨hour, minute, second, (fraction.getD []).map fun c => c.toNat - '0'.toNat⟩

/-- An offset. -/
def offset : Reader Offset :=
  ((char 'Z' <|> char 'z') *> pure .universal) <|> do
    let west ← char '-' <|> char '+'
    let (hour, minute) ← hourMinute
    let n : Int := hour * 60 + minute
    return .minutes (if west == '-' then -n else n)

/-- The time after a date, with its offset. -/
def timeAfterDate : Reader (Time × Option Offset) := do
  discard (char 'T' <|> char 't' <|> char ' ')
  return (← time, ← maybe offset)

/-- A date, a time or both. -/
def dateTime : Reader DateTime :=
  (do
    let d ← date
    match ← maybe timeAfterDate with
    | some (t, o) => return .both d t o
    | none => return .date d) <|>
  (.time <$> time)

end ComputeContext.Toml
