import SectorForest.Toml.Scan

/-!
# Quoted texts in TOML

A text stands between double quotes, where a backslash escapes, or between single quotes, where
nothing does. Three quotes in place of one let the text run over several lines; the line end right
behind them does not count, and a text may end in up to two more quotes than close it.
-/

namespace SectorForest.Toml

open Text

/-- The character with the code that hexadecimal digits denote, if there is one. -/
def codeChar? (digits : List Char) : Option Char := do
  charOfCode? (← hexNumber? digits)

/-- The character that a backslash and a letter stand for. -/
def escaped? (c : Char) : Option Char :=
  if c = 'b' then some '\x08'
  else if c = 't' then some '\t'
  else if c = 'n' then some '\n'
  else if c = 'f' then some '\x0C'
  else if c = 'r' then some '\r'
  else if c = '"' then some '"'
  else if c = '\\' then some '\\'
  else none

/-- The rest of a text between double quotes. -/
def basicText : Scan (List Char)
  | '"' :: rest => some ([], rest)
  | '\\' :: 'u' :: a :: b :: c :: d :: rest => do
    andThen (← codeChar? [a, b, c, d]) (basicText rest)
  | '\\' :: 'U' :: a :: b :: c :: d :: e :: f :: g :: h :: rest => do
    andThen (← codeChar? [a, b, c, d, e, f, g, h]) (basicText rest)
  | '\\' :: c :: rest => do andThen (← escaped? c) (basicText rest)
  | c :: rest => if c ≠ '\\' ∧ isPlain c then andThen c (basicText rest) else none
  | [] => none

/-- The rest of a text between single quotes. -/
def literalText : Scan (List Char)
  | '\'' :: rest => some ([], rest)
  | c :: rest => if isPlain c then andThen c (literalText rest) else none
  | [] => none

/-- The text up to three quotes, and what follows them. The text begins with a run of quotes that is
at least that long; up to two of them belong to the text. -/
def closeQuotes (quote : Char) (cs : List Char) : List Char × List Char :=
  let extra := min 2 ((cs.takeWhile (· == quote)).length - 3)
  (List.replicate extra quote, cs.drop (extra + 3))

/-- Whether a line ends here but for blanks. -/
def endsLine (cs : List Char) : Bool :=
  (lineEnd? (skipGaps cs)).isSome

/-- The rest of a text between three double quotes. While `trimming`, blanks and line ends are
dropped: a backslash at the end of a line starts that. -/
def basicLines : (trimming : Bool) → Scan (List Char)
  | _, '"' :: '"' :: '"' :: rest => some (closeQuotes '"' ('"' :: '"' :: '"' :: rest))
  | trimming, '\r' :: '\n' :: rest =>
    if trimming then basicLines true rest else andThen '\n' (basicLines false rest)
  | _, '\\' :: 'u' :: a :: b :: c :: d :: rest => do
    andThen (← codeChar? [a, b, c, d]) (basicLines false rest)
  | _, '\\' :: 'U' :: a :: b :: c :: d :: e :: f :: g :: h :: rest => do
    andThen (← codeChar? [a, b, c, d, e, f, g, h]) (basicLines false rest)
  | _, '\\' :: c :: rest =>
    if endsLine (c :: rest) then basicLines true (c :: rest)
    else do andThen (← escaped? c) (basicLines false rest)
  | trimming, c :: rest =>
    if trimming ∧ (isGap c ∨ c = '\n') then basicLines true rest
    else if c ≠ '\\' ∧ (isPlain c ∨ c = '\n') then andThen c (basicLines false rest)
    else none
  | _, [] => none

/-- The rest of a text between three single quotes. -/
def literalLines : Scan (List Char)
  | '\'' :: '\'' :: '\'' :: rest => some (closeQuotes '\'' ('\'' :: '\'' :: '\'' :: rest))
  | '\r' :: '\n' :: rest => andThen '\n' (literalLines rest)
  | c :: rest =>
    if isPlain c ∨ c = '\n' then andThen c (literalLines rest) else none
  | [] => none

/-- The text after a line end that stands in front of it. -/
def dropLineEnd (cs : List Char) : List Char :=
  (lineEnd? cs).getD cs

/-- A text in quotes within one line. -/
def quotedKey : Scan (List Char)
  | '"' :: rest => basicText rest
  | '\'' :: rest => literalText rest
  | _ => none

/-- A text in quotes of any of the four kinds. -/
def quotedValue : Scan (List Char)
  | '"' :: '"' :: '"' :: rest => basicLines false (dropLineEnd rest)
  | '\'' :: '\'' :: '\'' :: rest => literalLines (dropLineEnd rest)
  | cs => quotedKey cs

end SectorForest.Toml
