import SectorForest.Storage.Fault
import SectorForest.Text.Name
import SectorForest.Text.Scan

/-!
# Tokens of statements

A statement is written in tokens: names, keywords, and marks such as numbers and operators, with
blanks and comments between them. `Lexeme.ofText` splits a text into its tokens; each keeps how it
is written and where it stands, for a statement that cannot be read is reported by the token that
may not stand in its place.

A name is a word that is no keyword, or any text between quotes. Most words with a meaning in
statements are names wherever that meaning is out of place, so `keywords` lists only those that
never are.
-/

namespace SectorForest.Storage

open Text

/-- A token of a statement. -/
inductive Token where
  /-- A word or a quoted text, as it is written, and the name that it denotes. -/
  | name (text value : String)
  | keyword (text : String)
  /-- A number, a parameter, an operator or a bracket. -/
  | mark (text : String)
  /-- A piece that is no token. -/
  | stray (text : String)
  deriving DecidableEq, Repr, Inhabited

namespace Token

/-- The fault of a statement in which the token may not stand where it stands. -/
def fault : Token → Fault
  | .name text _ | .keyword text | .mark text => .misplaced text
  | .stray text => .unrecognized text

/-! ## Characters and words -/

/-- A blank between tokens. -/
def isGap (c : Char) : Bool :=
  c = ' ' || c = '\t' || c = '\n' || c = '\r' || c = '\x0C'

/-- A blank behind another one: a vertical tab is a blank there alone. -/
def isFurtherGap (c : Char) : Bool :=
  isGap c || c = '\x0B'

/-- The mark of a byte order, which counts for nothing where a token could start. -/
def isByteOrderMark (c : Char) : Bool :=
  c = '\ufeff'

/-- A character with which a word starts. Every character beyond ASCII is one. -/
def startsWord (c : Char) : Bool :=
  c.isAlpha || c = '_' || 0x80 ≤ c.toNat

/-- A character of a word behind its first. -/
def isWordChar (c : Char) : Bool :=
  startsWord c || c.isDigit || c = '$'

/-- The words that are never names. -/
def keywords : List String :=
  ["add", "all", "alter", "and", "as", "autoincrement", "between", "case", "check", "collate",
    "commit", "constraint", "create", "default", "deferrable", "delete", "distinct", "drop", "else",
    "escape", "except", "exists", "foreign", "from", "group", "having", "in", "index", "insert",
    "intersect", "into", "is", "isnull", "join", "limit", "not", "nothing", "notnull", "null", "on",
    "or", "order", "primary", "references", "returning", "select", "set", "table", "then", "to",
    "transaction", "union", "unique", "update", "using", "values", "when", "where"]

/-- The token of a word. -/
def ofWord (text : String) : Token :=
  if keywords.any (sameName text) then .keyword text else .name text text

/-! ## Quoted texts, numbers and marks -/

/-- The quote of a plain text. -/
def apostrophe : Char := Char.ofNat 0x27

/-- One of the quotes of a name. -/
def backtick : Char := Char.ofNat 0x60

/-- What stands up to the closing quote, and what follows it. A quote written twice does not
close. -/
def quotedRest (quote : Char) : Scan (List Char)
  | [] => none
  | c :: d :: rest =>
    if c = quote then
      if d = quote then andThen quote (quotedRest quote rest) else some ([], d :: rest)
    else andThen c (quotedRest quote (d :: rest))
  | [c] => if c = quote then some ([], []) else none

/-- A text behind an opening quote. Without the closing one, the rest is no token. -/
def quotedText (quote : Char) (rest : List Char) : Token × List Char :=
  match quotedRest quote rest with
  | some (value, after) =>
    (.name (String.ofList (quote :: rest.take (rest.length - after.length))) (String.ofList value),
      after)
  | none => (.stray (String.ofList (quote :: rest)), [])

/-- A name behind an opening bracket. -/
def bracketed (rest : List Char) : Token × List Char :=
  let value := rest.takeWhile (· != ']')
  match rest.dropWhile (· != ']') with
  | _ :: after =>
    (.name (String.ofList ('[' :: value ++ [']'])) (String.ofList value), after)
  | [] => (.stray (String.ofList ('[' :: rest)), [])

/-- The beginning of a text whose characters fulfil a condition or part digits, and the rest. -/
def digitRun (isDigit : Char → Bool) (cs : List Char) : List Char × List Char :=
  let inRun (c : Char) := isDigit c || c = '_'
  (cs.takeWhile inRun, cs.dropWhile inRun)

/-- The point and the digits behind it. -/
def placesRun : List Char → List Char × List Char
  | '.' :: cs =>
    let (places, cs) := digitRun Char.isDigit cs
    ('.' :: places, cs)
  | cs => ([], cs)

/-- The exponent of a number, if there is a whole one. -/
def exponentRun (cs : List Char) : List Char × List Char :=
  match cs with
  | e :: c :: rest =>
    let isSigned := (c = '+' || c = '-') && rest.head?.any Char.isDigit
    if (e = 'e' || e = 'E') && (c.isDigit || isSigned) then
      let (digits, rest) := digitRun Char.isDigit rest
      (e :: c :: digits, rest)
    else ([], cs)
  | cs => ([], cs)

/-- The beginning of a text that is a number, and the rest. -/
def numberRun (cs : List Char) : List Char × List Char :=
  let decimal :=
    let (whole, rest) := digitRun Char.isDigit cs
    let (places, rest) := placesRun rest
    let (exponent, rest) := exponentRun rest
    (whole ++ places ++ exponent, rest)
  match cs with
  | '0' :: x :: c :: rest =>
    if (x = 'x' || x = 'X') && (hexDigit? c).isSome then
      let (digits, rest) := digitRun (fun c => (hexDigit? c).isSome) rest
      ('0' :: x :: c :: digits, rest)
    else decimal
  | _ => decimal

/-- A number. With characters of a word right behind it, it is no token. -/
def number (cs : List Char) : Token × List Char :=
  let (digits, rest) := numberRun cs
  let tail := rest.takeWhile isWordChar
  let text := String.ofList (digits ++ tail)
  (if tail.isEmpty then .mark text else .stray text, rest.dropWhile isWordChar)

/-- Bytes in hexadecimal behind an `x` and a quote. -/
def hexBytes (x : Char) (rest : List Char) : Token × List Char :=
  let digits := rest.takeWhile (· != apostrophe)
  let after := rest.dropWhile (· != apostrophe)
  let text := String.ofList (x :: apostrophe :: (digits ++ after.take 1))
  let isWhole := !after.isEmpty && digits.length % 2 = 0 && digits.all fun c => (hexDigit? c).isSome
  (if isWhole then .mark text else .stray text, after.drop 1)

/-- A parameter behind its mark; it may lack a number, but not a name. -/
def parameter (c : Char) (rest : List Char) : Token × List Char :=
  let isPart := if c = '?' then Char.isDigit else isWordChar
  let body := rest.takeWhile isPart
  let text := String.ofList (c :: body)
  (if c = '?' || !body.isEmpty then .mark text else .stray text, rest.dropWhile isPart)

/-- The operators and brackets, those before others that they start with. -/
def operators : List (List Char) :=
  ["->>", "->", "==", "<=", "<>", "<<", ">=", ">>", "!=", "||", "(", ")", ";", "+", "*", "-", "/",
    "%", "=", "<", ">", "|", ",", "&", "~", "."].map String.toList

/-- An operator or a bracket. -/
def operator (cs : List Char) : Token × List Char :=
  match operators.find? (·.isPrefixOf cs) with
  | some text => (.mark (String.ofList text), cs.drop text.length)
  | none => (.stray (String.ofList (cs.take 1)), cs.drop 1)

/-! ## Texts -/

/-- What follows a comment that a text begins with. -/
def afterComment? : List Char → Option (List Char)
  | '-' :: '-' :: rest => some (rest.dropWhile (· != '\n'))
  | '/' :: '*' :: c :: rest => some (close (c :: rest))
  | _ => none
where
  /-- What follows the end of a comment. -/
  close : List Char → List Char
    | '*' :: '/' :: rest => rest
    | _ :: rest => close rest
    | [] => []

/-- The first token of a text that begins with one. -/
def first (c : Char) (rest : List Char) : Token × List Char :=
  if c = '"' || c = apostrophe || c = backtick then quotedText c rest
  else if c = '[' then bracketed rest
  else if (c = 'x' || c = 'X') && rest.head? = some apostrophe then hexBytes c (rest.drop 1)
  else if startsWord c then
    (ofWord (String.ofList (c :: rest.takeWhile isWordChar)), rest.dropWhile isWordChar)
  else if c.isDigit || c = '.' && rest.head?.any Char.isDigit then number (c :: rest)
  else if c = '?' || c = '$' || c = '@' || c = ':' || c = '#' then parameter c rest
  else operator (c :: rest)

end Token

/-! ## Places -/

/-- A token in a text. -/
structure Lexeme where
  token : Token
  /-- The text from the token on. -/
  start : List Char
  /-- The text behind the token. -/
  rest : List Char
  deriving Repr, Inhabited

namespace Lexeme

/-- The tokens of a text, at most `fuel` of them. -/
def scan : (fuel : Nat) → List Char → List Lexeme
  | 0, _ | _, [] => []
  | fuel + 1, c :: rest =>
    if Token.isGap c then scan fuel (rest.dropWhile Token.isFurtherGap)
    else if Token.isByteOrderMark c then scan fuel rest
    else
      match Token.afterComment? (c :: rest) with
      | some rest => scan fuel rest
      | none =>
        let (token, after) := Token.first c rest
        { token, start := c :: rest, rest := after } :: scan fuel after

/-- The tokens of a text. -/
def ofText (text : List Char) : List Lexeme :=
  scan text.length text

example : (ofText "a.[b c] -- d".toList).map (·.token) =
    [.name "a" "a", .mark ".", .name "[b c]" "b c"] := by decide +kernel
example : (ofText "Order 1a".toList).map (·.token) = [.keyword "Order", .stray "1a"] := by
  decide +kernel

end Lexeme

end SectorForest.Storage
