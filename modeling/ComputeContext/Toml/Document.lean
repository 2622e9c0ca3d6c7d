/-
# TOML documents

The lines of a document add to its table one after another. A dotted key opens
tables on its way, and so does a header; a table that is complete, or that the
other way of writing has opened, cannot be added to. A double header starts a
new row, and what follows goes into the last row.

A document is a sequence of lines: a key with its value, the header of a
table, the double header of a row, or nothing, each followed by an optional
comment. A byte order mark may stand in front. Arrays may run over several
lines, hold comments and end in a comma; tables in braces may not. Arrays and
tables in braces nest to a bounded depth, and a dotted key has a bounded
number of parts.

Key definitions: `Toml.enter`, `Toml.Line`, `Toml.assemble`, `Toml.value`,
`Toml.line`, `Toml.parse`.
-/
import ComputeContext.Toml.Value

namespace ComputeContext.Toml

/-! ### Putting tables together -/

/-- Changes the table at the end of a path, opening tables of the form `missing` where there are
none. `mayEnter` says which tables the path may lead through. The change is also told the form of
the table it works on; `form` is that of the table the path starts from. -/
def enter (missing : Form) (mayEnter : Form → Bool) (change : Form → Table → Option Table) :
    List String → Form → Table → Option Table
  | [], form, t => change form t
  | key :: path, _, t => do
    match t.get? key with
    | none => return t.put key (.table missing (← enter missing mayEnter change path missing []))
    | some (.table form entries) =>
      if mayEnter form then
        return t.put key (.table form (← enter missing mayEnter change path form entries))
      else none
    | some (.rows tables) =>
      let last ← enter missing mayEnter change path .header (← tables.getLast?)
      return t.put key (.rows (tables.dropLast ++ [last]))
    | some _ => none

/-- A new key with its value. -/
def putNew (key : String) (v : Value) (t : Table) : Option Table :=
  match t.get? key with
  | none => some (t.put key v)
  | some _ => none

/-- A key with its value, the key's parents being a dotted path. Only dotted tables take keys from
such a path; it may also lead through tables that a header implied. -/
def putDotted (path : List String) (key : String) (v : Value) (t : Table) : Option Table :=
  enter .dotted (fun f => f == .dotted || f == .implied)
    (fun form t => if path.isEmpty || form == .dotted then putNew key v t else none)
    path .header t

/-- Opens the table of a header. Parents may be any tables but those in braces; the table itself
must be new, or implied by an earlier header. -/
def openTable (parents : List String) (key : String) (t : Table) : Option Table :=
  enter .implied (· != .inlined)
    (fun _ t =>
      match t.get? key with
      | none => some (t.put key (.table .header []))
      | some (.table .implied entries) => some (t.put key (.table .header entries))
      | some _ => none)
    parents .header t

/-- Starts a new row for a double header. -/
def openRow (parents : List String) (key : String) (t : Table) : Option Table :=
  enter .implied (· != .inlined)
    (fun _ t =>
      match t.get? key with
      | none => some (t.put key (.rows [[]]))
      | some (.rows tables) => some (t.put key (.rows (tables ++ [[]])))
      | some _ => none)
    parents .header t

/-- A key with its parents. -/
structure Path where
  parents : List String
  key : String
deriving DecidableEq, Repr

/-- A line of a document. -/
inductive Line
  | empty
  | entry (path : Path) (value : Value)
  | table (path : Path)
  | row (path : Path)

/-- What has been put together, and the header that the next entries stand under. -/
structure Draft where
  root : Table
  current? : Option Path

/-- Changes the table that entries go to: the one the last header opened, or the root. -/
def changeSection (d : Draft) (change : Table → Option Table) : Option Table :=
  match d.current? with
  | none => change d.root
  | some p => enter .implied (· != .inlined) (fun _ => change) (p.parents ++ [p.key]) .header d.root

/-- One more line. -/
def Draft.add (d : Draft) : Line → Option Draft
  | .empty => some d
  | .entry p v => do return { d with root := ← changeSection d (putDotted p.parents p.key v) }
  | .table p => do return { root := ← openTable p.parents p.key d.root, current? := some p }
  | .row p => do return { root := ← openRow p.parents p.key d.root, current? := some p }

/-- The table that a document's lines put together. -/
def assemble (lines : List Line) : Option Table := do
  return (← lines.foldlM Draft.add ⟨[], none⟩).root

/-- The table that the entries between braces put together. -/
def assembleInline (entries : List (Path × Value)) : Option Table :=
  entries.foldlM (fun t e => putDotted e.1.parents e.1.key e.2 t) []

/-! ### Lines -/

open Reader

/-- Nesting and dotted keys stay below this bound. -/
def depthBound : Nat := 80

/-- A comment up to the end of its line. -/
def comment : Reader Unit := char '#' *> discard (run isPlain)

/-- Blanks, line breaks and comments, as they may stand between the values of an array. -/
def spacing : Reader Unit :=
  discard (many (discard (one isBlankChar) <|> newline <|> comment))

/-- A character of a key without quotes. -/
def isBareChar (c : Char) : Bool := c.isAlphanum || c == '_' || c == '-'

/-- One part of a key. -/
def keyPart : Reader String :=
  blanks *> (singleLine <|> (String.ofList <$> run1 isBareChar)) <* blanks

/-- A key, its parts separated by dots. -/
def path : Reader Path := do
  let parts ← separated1 keyPart (char '.')
  if parts.length < depthBound then
    match parts.reverse with
    | key :: parents => return ⟨parents.reverse, key⟩
    | [] => failure
  else failure

/-- A key and its value. -/
def keyValue (value : Reader Value) : Reader (Path × Value) := do
  let p ← path
  discard (char '=')
  blanks
  return (p, ← value)

/-- The values of an array, up to its closing bracket. -/
def arrayBody (value : Reader Value) : Reader (List Value) := do
  let elements ← separated (spacing *> value <* spacing) (char ',')
  if !elements.isEmpty then discard (maybe (char ','))
  spacing
  discard (char ']')
  return elements

/-- The entries of a table in braces, up to its closing brace. -/
def inlineBody (value : Reader Value) : Reader Table := do
  let entries ← separated (keyValue value <* blanks) (char ',')
  blanks
  discard (char '\x7d')
  match assembleInline entries with
  | some t => pure t
  | none => failure

/-- A value that holds no other values. -/
def scalar : Reader Value :=
  (.string <$> quoted) <|>
  (literal "true" *> pure (.boolean true)) <|>
  (literal "false" *> pure (.boolean false)) <|>
  (.dateTime <$> dateTime) <|>
  (.real <$> real) <|>
  (.integer <$> integer)

/-- A value in which arrays and tables in braces nest at most `depth` deep. -/
def value : Nat → Reader Value
  | 0 => scalar
  | depth + 1 =>
    scalar <|>
    (char '[' *> (.array <$> arrayBody (value depth))) <|>
    (char '\x7b' *> (.table .inlined <$> inlineBody (value depth)))

/-- A header in single brackets. -/
def tableHeader : Reader Path := char '[' *> path <* char ']'

/-- A header in double brackets. -/
def rowHeader : Reader Path := literal "[[" *> path <* literal "]]"

/-- What a line holds, without its comment and line break. -/
def line : Reader Line :=
  blanks *>
    ((.row <$> rowHeader) <|> (.table <$> tableHeader) <|>
      ((fun (p, v) => .entry p v) <$> keyValue (value (depthBound - 1))) <|> pure .empty) <*
    blanks <* discard (maybe comment)

/-- The lines of a document. -/
def lines : Reader (List Line) :=
  discard (maybe (char '\uFEFF')) *> separated1 line newline

/-- The table that a text writes, if it is a document. -/
def parse (text : String) : Option Table := do
  assemble (← all lines text)

end ComputeContext.Toml
