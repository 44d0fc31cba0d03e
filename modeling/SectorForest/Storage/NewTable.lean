import SectorForest.Number.Numeral
import SectorForest.Storage.Database
import SectorForest.Storage.Reader

/-!
# New tables as text

A statement that creates a table lists its columns, each with the words of a type and rules of its
own, and then rules of the whole table. `Reader.newTable` reads that list up to its closing bracket.

What is wrong with a column or a rule is looked at as soon as the token behind it is read, and that
token comes first: one that may not stand there is objected to whatever the rule says. Where there
is a table of the name already, the list is read for its form alone.
-/

namespace SectorForest.Storage

open Text

/-! ## Columns and rules -/

/-- A column of a new table. -/
structure NewColumn extends Column where
  /-- Whether its type lets it number the rows. -/
  isInteger : Bool := false
  deriving Repr, Inhabited

/-- A table as far as the list of its columns and rules is read. -/
structure NewTable where
  name : String
  part : Part := .main
  columns : List NewColumn := []
  /-- Whether a rule names its primary key. -/
  hasKey : Bool := false
  /-- The place of the column that numbers the rows. -/
  keyPlace? : Option Nat := none
  remembersNumbers : Bool := false
  uniques : List (List String) := []
  references : List Reference := []
  deriving Repr, Inhabited

/-- A rule of a column. -/
inductive ColumnRule where
  /-- A rule that says nothing. -/
  | idle
  | required
  | initial (cell : Cell)
  | unique
  | key (descending remembers : Bool)
  | refersTo (table key : String)
  deriving Repr, Inhabited

/-- A rule of a table. -/
inductive TableRule where
  /-- A rule that says nothing. -/
  | idle
  | unique (columns : List Name)
  | key (columns : List Name) (remembers : Bool)
  | refers (column : Name) (table key : String)
  deriving Repr, Inhabited

/-- The greatest number of columns of a table. -/
def maxColumns : Nat := 2000

namespace NewTable

/-- What the table is to be. -/
def definition (t : NewTable) : Definition where
  name := t.name
  part := t.part
  keyColumn := (t.keyPlace?.bind (t.columns[·]?)).map (·.name)
  keyPlace := t.keyPlace?.getD 0
  remembersNumbers := t.remembersNumbers
  columns := (t.keyPlace?.elim t.columns t.columns.eraseIdx).map (·.toColumn)
  uniques := t.uniques
  references := t.references

/-- The table with one more column. -/
def addColumn (column : NewColumn) (t : NewTable) : Except Objection NewTable :=
  if maxColumns ≤ t.columns.length then .error { fault := .tooManyColumns t.name }
  else if t.columns.any fun c => sameName c.name column.name then
    .error { fault := .duplicateColumn column.name }
  else .ok { t with columns := t.columns ++ [column] }

/-- The table in which no two rows agree in some columns. -/
def addUnique (columns : List Name) (t : NewTable) : Except Objection NewTable := do
  let group ← columns.mapM fun name =>
    match t.columns.find? fun c => sameName c.name name.value with
    | some column => pure column.name
    | none => throw { fault := .noColumn name.value, start := some name.start }
  return { t with uniques := if t.uniques.contains group then t.uniques else t.uniques ++ [group] }

/-- The place of the column that a primary key makes the number of a row: it is the only column of
the key, and of the type for that. -/
def numbering? (columns : List Name) (t : NewTable) : Option Nat :=
  match columns with
  | [name] => t.columns.findIdx? fun c => sameName c.name name.value && c.isInteger
  | _ => none

/-- The table with a primary key. A key in falling order does not number the rows. -/
def addKey (columns : List Name) (descending remembers : Bool) (t : NewTable) :
    Except Objection NewTable :=
  if t.hasKey then .error { fault := .secondKey t.name }
  else
    let t := { t with hasKey := true }
    match if descending then none else t.numbering? columns with
    | some place => .ok { t with keyPlace? := some place, remembersNumbers := remembers }
    | none => if remembers then .error { fault := .notNumbering } else t.addUnique columns

/-- The table with a change of the column read last. -/
def changeLast (change : NewColumn → NewColumn) (t : NewTable) : NewTable :=
  { t with columns := t.columns.modify (t.columns.length - 1) change }

/-- The table with a rule of the column read last. -/
def addColumnRule (rule : ColumnRule) (t : NewTable) : Except Objection NewTable :=
  let name := (t.columns.getLast?.map (·.name)).getD ""
  let names : List Name := [{ value := name, text := name, start := [] }]
  match rule with
  | .idle => .ok t
  | .required => .ok (t.changeLast fun c => { c with required := true })
  | .initial cell => .ok (t.changeLast fun c => { c with initial := cell })
  | .unique => t.addUnique names
  | .key descending remembers => t.addKey names descending remembers
  | .refersTo table key =>
    .ok { t with references := t.references ++ [{ column := name, table, key }] }

/-- The table with a rule of its own. -/
def addRule (rule : TableRule) (t : NewTable) : Except Objection NewTable :=
  match rule with
  | .idle => .ok t
  | .unique columns => t.addUnique columns
  | .key columns remembers => t.addKey columns false remembers
  | .refers column table key =>
    match t.columns.find? fun c => sameName c.name column.value with
    | some c => .ok { t with references := t.references ++ [{ column := c.name, table, key }] }
    | none => .error { fault := .noReferringColumn column.value }

end NewTable

namespace Reader

/-! ## Types -/

/-- Whether a text occurs in another. -/
def occursIn (part whole : List Char) : Bool :=
  (List.range whole.length).any fun k => part.isPrefixOf (whole.drop k)

/-- The affinity of a column whose type is written in some words. -/
def affinityOf (words : List String) : Affinity :=
  let type := (String.intercalate " " words).toList.map Char.toLower
  let holds (parts : List String) : Bool := parts.any fun part => occursIn part.toList type
  if words.isEmpty then .none
  else if holds ["int"] then .integer
  else if holds ["char", "clob", "text"] then .text
  else if holds ["blob"] then .none
  else if holds ["real", "floa", "doub"] then .real
  else .integer

/-- The words that are names, but not the names of types. -/
def typelessWords : List String :=
  ["indexed", "cross", "full", "inner", "left", "natural", "outer", "right"]

/-- The words of a type, at most `fuel` of them. -/
def typeWords : (fuel : Nat) → Reader (List String)
  | 0, lexemes => .ok ([], lexemes)
  | fuel + 1, lexemes =>
    match lexemes with
    | { token := .name text _, .. } :: rest =>
      if typelessWords.any (sameName text) then refuse lexemes
      else ((text :: ·) <$> typeWords fuel) rest
    | _ => .ok ([], lexemes)

/-- A number, which may have a sign. -/
def signedNumber : Reader Unit := do
  let _ ← accept fun token => isMark "+" token || isMark "-" token
  expect isNumber

/-- The size of a type, one number or two in brackets, which may be left out. -/
def typeSize : Reader Bool := do
  if ← accept (isMark "(") then
    signedNumber
    if ← accept (isMark ",") then signedNumber
    expect (isMark ")")
    return true
  else return false

/-- A new column without its rules: a name, and the words of a type. -/
def newColumn : Reader NewColumn := do
  let name ← name
  let words ← typeWords (← get).length
  let hasSize ← if words.isEmpty then pure false else typeSize
  let isInteger := match words with
    | [word] => sameName word "integer" && !hasSize
    | _ => false
  return { name := name.value, affinity := affinityOf words, isInteger }

/-! ## Rules -/

/-- The words with which rules of a column start. -/
def columnRuleWords : List String :=
  ["constraint", "default", "null", "not", "primary", "unique", "check", "references", "collate",
    "as", "deferrable"]

/-- The words with which rules of a table start. -/
def tableRuleWords : List String :=
  ["constraint", "primary", "unique", "check", "foreign"]

/-- The cell that a number denotes; it is a whole one if it is written with digits alone. -/
def numberCell (isNegative : Bool) (text : String) : Cell :=
  let digits := text.toList.filter (· != '_')
  let numeral := (if isNegative then "-" else "") ++ String.ofList digits
  match if digits.all Char.isDigit then Number.wholeNumber? numeral else none with
  | some i => .int i
  | none => (Number.floating? numeral).elim .null .real

/-- The cell that a token denotes by itself. A name denotes its text, unless it is a truth value. -/
def cell? : Token → Option Cell
  | .keyword text => if sameName text "null" then some .null else none
  | .name text value =>
    some (if sameName text "true" then .int 1 else if sameName text "false" then .int 0
      else .text value)
  | .mark text => if isNumber (.mark text) then some (numberCell false text) else none
  | .stray _ => none

/-- A cell as it is written. -/
def cell : Reader Cell := do
  if ← accept (isMark "+") then number false
  else if ← accept (isMark "-") then number true
  else
    fun
      | [] => refuse []
      | l :: rest =>
        match cell? l.token with
        | some cell => .ok (cell, rest)
        | none => refuse (l :: rest)
where
  /-- A number behind its sign. -/
  number (isNegative : Bool) : Reader Cell
    | { token := .mark text, start, rest := behind } :: rest =>
      if isNumber (.mark text) then .ok (numberCell isNegative text, rest)
      else refuse ({ token := .mark text, start, rest := behind } :: rest)
    | lexemes => refuse lexemes

/-- The direction of an order, which may be left out; whether it falls. -/
def isDescending : Reader Bool := do
  if ← accept (isWord "asc") then return false
  else accept (isWord "desc")

/-- Another table and a column of it. -/
def referred : Reader (String × String) := do
  let table ← name
  expect (isMark "(")
  let key ← name
  expect (isMark ")")
  return (table.value, key.value)

/-- A rule of a column; none if the next token starts none. -/
def columnRule? : Reader (Option ColumnRule) := do
  if ← accept (isWord "constraint") then
    let _ ← name
    return some .idle
  if ← accept (isWord "null") then return some .idle
  if ← accept (isWord "not") then
    expect (isWord "null")
    return some .required
  if ← accept (isWord "default") then return some (.initial (← cell))
  if ← accept (isWord "unique") then return some .unique
  if ← accept (isWord "primary") then
    expect (isWord "key")
    let descending ← isDescending
    return some (.key descending (← accept (isWord "autoincrement")))
  if ← accept (isWord "references") then
    let (table, key) ← referred
    return some (.refersTo table key)
  return none

/-- The columns of a rule and the word that closes them, up to the closing bracket; at most `fuel`
of them. -/
def ruleColumns (closing : Reader Bool) : (fuel : Nat) → Reader (List Name × Bool)
  | 0 => refuse
  | fuel + 1 => do
    let column ← name
    let _ ← isDescending
    if ← accept (isMark ",") then
      let (columns, isClosed) ← ruleColumns closing fuel
      return (column :: columns, isClosed)
    else
      let isClosed ← closing
      expect (isMark ")")
      return ([column], isClosed)

/-- A rule of a table. -/
def tableRule : Reader TableRule := do
  if ← accept (isWord "constraint") then
    let _ ← name
    return .idle
  if ← accept (isWord "unique") then
    expect (isMark "(")
    let (columns, _) ← ruleColumns (pure false) (← get).length
    return .unique columns
  if ← accept (isWord "primary") then
    expect (isWord "key")
    expect (isMark "(")
    let (columns, remembers) ← ruleColumns (accept (isWord "autoincrement")) (← get).length
    return .key columns remembers
  if ← accept (isWord "foreign") then
    expect (isWord "key")
    expect (isMark "(")
    let column ← name
    expect (isMark ")")
    expect (isWord "references")
    let (table, key) ← referred
    return .refers column table key
  refuse

/-! ## Lists of columns and rules -/

/-- Add to a table what was read last, if the next token may stand behind it: one that goes on with
the list, or a word that starts a rule. -/
def add (words : List String) (t : Option NewTable)
    (change : NewTable → Except Objection NewTable) : Reader (Option NewTable) := do
  let mayFollow (token : Token) : Bool :=
    isMark "," token || isMark ")" token || words.any (isWord · token)
  if !(← foresee mayFollow) then refuse
  match t.mapM change with
  | .ok t => return t
  | .error objection => throw objection

/-- The rules of the column read last, at most `fuel` of them. -/
def columnRules : (fuel : Nat) → Option NewTable → Reader (Option NewTable)
  | 0, _ => refuse
  | fuel + 1, t => do
    match ← columnRule? with
    | none => return t
    | some rule => columnRules fuel (← add columnRuleWords t (·.addColumnRule rule))

/-- The rules of a table up to the closing bracket, at most `fuel` of them. A comma between two may
be left out. -/
def tableRules : (fuel : Nat) → Option NewTable → Reader (Option NewTable)
  | 0, _ => refuse
  | fuel + 1, t => do
    let rule ← tableRule
    let t ← add tableRuleWords t (·.addRule rule)
    if ← accept (isMark ")") then return t
    let _ ← accept (isMark ",")
    tableRules fuel t

/-- The columns and the rules of a table up to the closing bracket, at most `fuel` columns and
`fuel` rules. -/
def columnsAndRules : (fuel : Nat) → Option NewTable → Reader (Option NewTable)
  | 0, _ => refuse
  | fuel + 1, t => do
    let column ← newColumn
    let t ← add columnRuleWords t (·.addColumn column)
    let t ← columnRules fuel t
    if ← accept (isMark ")") then return t
    expect (isMark ",")
    if ← foresee fun token => tableRuleWords.any (isWord · token) then tableRules fuel t
    else columnsAndRules fuel t

/-- The columns and the rules of a new table up to the closing bracket; without a table, they are
read for their form alone. -/
def newTable (t : Option NewTable) : Reader (Option NewTable) := do
  columnsAndRules (← get).length t

end Reader

end SectorForest.Storage
