import SectorForest.Storage.Token

/-!
# Reading statements

A `Reader` takes tokens from the front of a statement and hands back what they say, or objects to
one that may not stand where it stands. An `Objection` keeps the place that it is about, so that the
fault can be told with the statement and that place.
-/

namespace SectorForest.Storage

open Text

/-- What is wrong with a statement, and the text from the place on that it is about. -/
structure Objection where
  fault : Fault
  start : Option (List Char) := none
  deriving Repr, Inhabited

/-- The number of bytes of a text. -/
def byteCount (text : List Char) : Nat :=
  text.foldl (fun size c => size + c.utf8Size) 0

/-- A text as far as it counts: a zero byte ends it. -/
def countedText (text : List Char) : List Char :=
  text.takeWhile fun c => c.toNat != 0

/-- The fault of the statement that a text is. -/
def Objection.toFault (objection : Objection) (text : List Char) : Fault :=
  match objection.start with
  | some start =>
    .located objection.fault (String.ofList text) (byteCount (countedText text) - byteCount start)
  | none => objection.fault

/-- What takes tokens from the front of a statement. -/
abbrev Reader := StateT (List Lexeme) (Except Objection)

/-- A name as it is written. -/
structure Name where
  value : String
  text : String
  /-- The text from the name on. -/
  start : List Char
  deriving Repr, Inhabited

namespace Reader

/-- Object to the next token, or to the end of the statement. -/
def refuse {α : Type} : Reader α
  | [] => .error { fault := .incomplete }
  | l :: _ => .error { fault := l.token.fault, start := some l.start }

/-- Object at a place of its own. -/
def object {α : Type} (fault : Fault) (start : Option (List Char) := none) : Reader α :=
  fun _ => .error { fault, start }

/-- Take the next token if it fulfils a condition. -/
def accept (condition : Token → Bool) : Reader Bool
  | [] => .ok (false, [])
  | l :: rest => .ok (if condition l.token then (true, rest) else (false, l :: rest))

/-- Whether the next token fulfils a condition; it is not taken. -/
def foresee (condition : Token → Bool) : Reader Bool :=
  fun lexemes => .ok (lexemes.head?.any fun l => condition l.token, lexemes)

/-- Take the next token, which has to fulfil a condition. -/
def expect (condition : Token → Bool) : Reader Unit := do
  if !(← accept condition) then refuse

/-- Whether a token is a word, in whatever case. -/
def isWord (word : String) : Token → Bool
  | .name text _ | .keyword text => sameName text word
  | _ => false

/-- Whether a token is a mark. -/
def isMark (mark : String) (token : Token) : Bool :=
  token = .mark mark

/-- Whether a token is a number without a sign. -/
def isNumber : Token → Bool
  | .mark text =>
    match text.toList with
    | '.' :: c :: _ => c.isDigit
    | c :: _ => c.isDigit
    | [] => false
  | _ => false

/-- Take a name. -/
def name : Reader Name
  | { token := .name text value, start, rest := _ } :: rest => .ok ({ value, text, start }, rest)
  | lexemes => refuse lexemes

/-- The next token is a mark that ends the statement, or there is none: what follows it. -/
def ending : Reader (List Char)
  | [] => .ok ([], [])
  | l :: rest => if isMark ";" l.token then .ok (l.rest, rest) else refuse (l :: rest)

/-- What a reader makes of a statement. -/
def run {α : Type} (reader : Reader α) (text : List Char) : Except Fault α :=
  match StateT.run reader (Lexeme.ofText (countedText text)) with
  | .ok (found, _) => .ok found
  | .error objection => .error (objection.toFault text)

end Reader

end SectorForest.Storage
