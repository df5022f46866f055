import ScriptHost.Decimal.Read
import ScriptHost.Text.Blank

/-!
Tokens of the script language, and the reading of a text as tokens.

A text between backticks may hold expressions: it is read as fragments with the tokens of the
expressions between them. Reading never fails; what is not a token becomes an `invalid` one that
ends the list, so a mistake counts only where a reader of tokens gets to it.

The language is a part of a larger one. The signs of powers, of substitutes for missing values
(`??`) and of members that may be missing (`?.`, `?[`) are in `unusedSymbols`: they are known and
refused. So are the words of what is left out among statements, which stay reserved.
-/

namespace ScriptHost.Script

/-- A place in a text, counted in lines and characters from one. -/
structure Position where
  line : Nat
  column : Nat
deriving DecidableEq, Repr, Inhabited

namespace Position

def text (position : Position) : String :=
  "line " ++ position.line.repr ++ ", position " ++ position.column.repr

def after (position : Position) (letter : Char) : Position :=
  if letter = '\n' then ⟨position.line + 1, 1⟩ else ⟨position.line, position.column + 1⟩

end Position

inductive Token where
  | integer (value : Int64)
  | float (value : Float)
  | text (value : String)
  | letter (value : Char)
  /-- A part of a text before an expression. -/
  | fragment (value : String)
  | word (name : String)
  | symbol (sign : String)
  | invalid (reason : String)
  | finish
deriving Repr, Inhabited

structure Located where
  token : Token
  position : Position
deriving Repr, Inhabited

structure Cursor where
  rest : List Char
  position : Position

namespace Cursor

def start (text : String) : Cursor := ⟨text.toList, ⟨1, 1⟩⟩

def advance (cursor : Cursor) : Cursor :=
  match cursor.rest with
  | [] => cursor
  | letter :: rest => ⟨rest, cursor.position.after letter⟩

def skip : Nat → Cursor → Cursor
  | 0, cursor => cursor
  | count + 1, cursor => skip count cursor.advance

def takeWhile (test : Char → Bool) (cursor : Cursor) : List Char × Cursor :=
  let taken := cursor.rest.takeWhile test
  (taken, ⟨cursor.rest.dropWhile test, taken.foldl Position.after cursor.position⟩)

end Cursor

def hexValue? (digit : Char) : Option Nat :=
  if '0' ≤ digit ∧ digit ≤ '9' then some (digit.toNat - '0'.toNat)
  else if 'a' ≤ digit ∧ digit ≤ 'f' then some (digit.toNat - 'a'.toNat + 10)
  else if 'A' ≤ digit ∧ digit ≤ 'F' then some (digit.toNat - 'A'.toNat + 10)
  else none

def codedLetter? (count : Nat) (digits : List Char) : Option Char := do
  if digits.length < count then failure
  let code ← (digits.take count).foldlM
    (fun total digit => return 16 * total + (← hexValue? digit)) 0
  if code.isValidChar then return Char.ofNat code else failure

/-- What follows a backslash: the character meant and the number of characters read. -/
def escapedLetter? (quote : Char) : List Char → Option (Char × Nat)
  | '\\' :: _ => some ('\\', 1)
  | 't' :: _ => some ('\t', 1)
  | 'n' :: _ => some ('\n', 1)
  | 'r' :: _ => some ('\r', 1)
  | 'x' :: digits => (codedLetter? 2 digits).map fun letter => (letter, 3)
  | 'u' :: digits => (codedLetter? 4 digits).map fun letter => (letter, 5)
  | 'U' :: digits => (codedLetter? 8 digits).map fun letter => (letter, 9)
  | letter :: _ => if letter = quote then some (quote, 1) else none
  | [] => none

inductive TextEnd where
  | quote
  | expression
  | missing
  | badEscape

def isGap (letter : Char) : Bool :=
  letter == ' ' || letter == '\t' || letter == '\n' || letter == '\x0c' || letter == '\r'

/-- The blanks that begin a line, as far as the column of the quote that opened the text. -/
def skipIndent (margin : Nat) : Nat → Cursor → Cursor
  | 0, cursor => cursor
  | fuel + 1, cursor =>
      match cursor.rest with
      | letter :: _ =>
          if letter != '\n' && Text.isBlank letter && cursor.position.column ≤ margin then
            skipIndent margin fuel cursor.advance
          else
            cursor
      | [] => cursor

/-- Reads the inside of a text. Between backticks everything stands for itself and an expression
may follow `$`; elsewhere a backslash starts an escape and a line ends only after a backslash.
`margin` is the column of the opening quote. -/
def readText (quote : Char) (margin : Nat) :
    Nat → List Char → Cursor → String × TextEnd × Cursor
  | 0, read, cursor => (String.ofList read.reverse, .missing, cursor)
  | fuel + 1, read, cursor =>
      let verbatim := quote == '`'
      match cursor.rest with
      | [] => (String.ofList read.reverse, .missing, cursor)
      | letter :: rest =>
          if letter = quote then
            match rest with
            | next :: _ =>
                if next = quote then
                  readText quote margin fuel (quote :: read) (cursor.skip 2)
                else
                  (String.ofList read.reverse, .quote, cursor.advance)
            | [] => (String.ofList read.reverse, .quote, cursor.advance)
          else if letter = '\r' && rest.head? == some '\n' then
            readText quote margin fuel read cursor.advance
          else if verbatim then
            match letter, rest with
            | '$', '\x7b' :: _ => (String.ofList read.reverse, .expression, cursor.skip 2)
            | _, _ => readText quote margin fuel (letter :: read) cursor.advance
          else if letter = '\\' then
            match rest with
            | '\n' :: _ =>
                readText quote margin fuel read (skipIndent margin fuel (cursor.skip 2))
            | '\r' :: '\n' :: _ =>
                readText quote margin fuel read (skipIndent margin fuel (cursor.skip 3))
            | _ =>
                match escapedLetter? quote rest with
                | some (meant, count) =>
                    readText quote margin fuel (meant :: read) (cursor.skip (count + 1))
                | none => (String.ofList read.reverse, .badEscape, cursor)
          else if letter = '\n' then
            (String.ofList read.reverse, .missing, cursor)
          else
            readText quote margin fuel (letter :: read) cursor.advance

def isNumeral (letter : Char) : Bool :=
  letter.isDigit || letter == '_'

def isNameStart (letter : Char) : Bool :=
  letter.isAlpha || letter == '_'

def isNamePart (letter : Char) : Bool :=
  letter.isAlphanum || letter == '_'

/-- The fraction after the whole digits. A point counts only if something follows that is no second
point and could not start the name of a member. -/
def readFraction (cursor : Cursor) : List Char × Cursor :=
  match cursor.rest with
  | '.' :: next :: _ =>
      if next.isDigit then
        let (digits, cursor) := cursor.advance.takeWhile isNumeral
        ('.' :: digits, cursor)
      else if next == '.' || isNameStart next then
        ([], cursor)
      else
        (['.', '0'], cursor.advance)
  | _ => ([], cursor)

def readExponent (cursor : Cursor) : List Char × Cursor :=
  match cursor.rest with
  | mark :: sign :: _ =>
      if mark != 'e' && mark != 'E' then
        ([], cursor)
      else if sign == '+' || sign == '-' then
        let (digits, cursor) := (cursor.skip 2).takeWhile isNumeral
        ('e' :: sign :: digits, cursor)
      else if sign.isDigit then
        let (digits, cursor) := cursor.advance.takeWhile isNumeral
        ('e' :: digits, cursor)
      else
        ([], cursor)
  | _ => ([], cursor)

/-- An integer where it fits, and a float otherwise. -/
def numberToken (negative : Bool) (digits : List Char) : Token :=
  let digits := (digits.filter fun letter => letter != '_')
  let size := Decimal.natOfDigits digits
  let value : Int := if negative then -size else size
  if digits.all Char.isDigit && Int64.minValue.toInt ≤ value && value ≤ Int64.maxValue.toInt then
    .integer (Int64.ofInt value)
  else
    match Decimal.read? (String.ofList digits) with
    | some number => .float (if negative then -number else number)
    | none => .invalid "malformed number"

/-- Digits after `0x`, `0o` or `0b`, as the 64-bit pattern of an integer. -/
def radixToken (negative : Bool) (radix : Nat) (digits : List Char) : Token :=
  let digits := digits.filter fun letter => letter != '_'
  let value? := digits.foldlM (fun total digit => do
    let value ← hexValue? digit
    if value < radix then return radix * total + value else failure) 0
  match value? with
  | some value =>
      if digits.isEmpty || UInt64.size ≤ value then .invalid "malformed number"
      else
        let value := Int64.ofInt value
        .integer (if negative then -value else value)
  | none => .invalid "malformed number"

def readNumber (negative : Bool) (cursor : Cursor) : Token × Cursor :=
  let radix? := match cursor.rest with
    | '0' :: 'x' :: _ | '0' :: 'X' :: _ => some 16
    | '0' :: 'o' :: _ | '0' :: 'O' :: _ => some 8
    | '0' :: 'b' :: _ | '0' :: 'B' :: _ => some 2
    | _ => none
  match radix? with
  | some radix =>
      let (digits, cursor) := (cursor.skip 2).takeWhile fun letter =>
        letter == '_' || (hexValue? letter).isSome
      (radixToken negative radix digits, cursor)
  | none =>
      let (whole, cursor) := cursor.takeWhile isNumeral
      let (fraction, cursor) := readFraction cursor
      let (exponent, cursor) := readExponent cursor
      (numberToken negative (whole ++ fraction ++ exponent), cursor)

/-- Letters, digits and underscores, with a letter before the first digit. -/
def isName (name : List Char) : Bool :=
  match name.dropWhile fun letter => letter == '_' with
  | [] => false
  | first :: rest => first.isAlpha && rest.all isNamePart

/-- All symbols, those that begin another one after it. -/
def symbols : List String :=
  ["...", "..=", "===", "!==", "**=", "<<=", ">>=",
   "#\x7b", "::", "..", "==", "!=", "<=", ">=", "&&", "||", "+=", "-=", "*=", "/=", "%=", "&=",
   "|=", "^=", "**", "<<", ">>", "=>", "->", "<-", "??", "?.", "?[", ":=",
   "++", "--",
   "(", ")", "[", "]", "\x7b", "\x7d", ",", ";", ":", ".", "+", "-", "*", "/", "%", "<", ">",
   "=", "!", "&", "|", "^"]

def unusedSymbols : List String :=
  ["...", "===", "!==", "**", "**=", "=>", "->", "<-", "??", "?.", "?[", ":=", "++", "--"]

def symbolAt? (text : List Char) : Option String :=
  symbols.find? fun sign => sign.toList.isPrefixOf text

/-- Words that are followed by an operand and are none themselves. -/
def leadingWords : List String := [
  "return", "throw", "if", "while", "in", "else", "until", "do", "loop", "for", "break",
  "continue"]

/-- Whether a sign before a number belongs to it: not after what can end an operand. -/
def endsOperand : Token → Bool
  | .integer _ | .float _ | .text _ | .letter _ => true
  | .symbol sign => sign == ")" || sign == "]" || sign == "\x7d"
  | .word name => !leadingWords.contains name
  | _ => false

def skipComment : Nat → Nat → Cursor → Cursor
  | 0, _, cursor => cursor
  | fuel + 1, depth, cursor =>
      match cursor.rest with
      | [] => cursor
      | '*' :: '/' :: _ =>
          if depth ≤ 1 then cursor.skip 2 else skipComment fuel (depth - 1) (cursor.skip 2)
      | '/' :: '*' :: _ => skipComment fuel (depth + 1) (cursor.skip 2)
      | _ => skipComment fuel depth cursor.advance

/-- The reader between two tokens: for each text that is interrupted by an expression the number
of braces open in that expression, and the token read last. -/
structure Reader where
  cursor : Cursor
  braces : List Nat
  last : Token

/-- A text that has just been opened, or resumed after an expression. `start` is its place, and
`margin` the column of the quote that opened it. -/
def textToken (quote : Char) (start : Position) (reader : Reader) (cursor : Cursor) :
    Located × Reader :=
  let (value, ending, cursor) := readText quote start.column (cursor.rest.length + 1) [] cursor
  let resume (token : Token) (position : Position) (braces : List Nat) : Located × Reader :=
    (⟨token, position⟩, ⟨cursor, braces, token⟩)
  match ending with
  | .quote =>
      if quote = '\'' then
        match value.toList with
        | [letter] => resume (.letter letter) start reader.braces
        | _ => resume (.invalid "malformed character") start reader.braces
      else
        resume (.text value) start reader.braces
  | .expression => resume (.fragment value) start (0 :: reader.braces)
  | .missing => resume (.invalid "open text") start reader.braces
  | .badEscape => resume (.invalid "malformed escape") cursor.position reader.braces

/-- The line break right after an opening backtick is not part of the text. -/
def skipFirstBreak (cursor : Cursor) : Cursor :=
  match cursor.rest with
  | '\n' :: _ => cursor.advance
  | '\r' :: '\n' :: _ => cursor.skip 2
  | '\r' :: rest => ⟨rest, cursor.position.after '\n'⟩
  | _ => cursor

def symbolToken (reader : Reader) (cursor : Cursor) : Token × Reader :=
  match symbolAt? cursor.rest with
  | none =>
      let token := .invalid "unexpected character"
      (token, ⟨cursor, reader.braces, token⟩)
  | some sign =>
      let token := if unusedSymbols.contains sign then .invalid "unused symbol" else .symbol sign
      let rest := cursor.skip sign.length
      let braces := match reader.braces with
        | depth :: outer =>
            if sign == "\x7b" || sign == "#\x7b" then (depth + 1) :: outer
            else if sign == "\x7d" then (depth - 1) :: outer
            else depth :: outer
        | [] => []
      (token, ⟨rest, braces, token⟩)

/-- The token at the cursor, which stands before neither a blank nor a comment. -/
def readToken (reader : Reader) : Located × Reader :=
  let cursor := reader.cursor
  let start := cursor.position
  let plain (result : Token × Cursor) : Located × Reader :=
    (⟨result.1, start⟩, ⟨result.2, reader.braces, result.1⟩)
  let symbol : Located × Reader :=
    let (token, next) := symbolToken reader cursor
    (⟨token, start⟩, next)
  match cursor.rest with
  | [] => (⟨.finish, start⟩, reader)
  | '"' :: _ => textToken '"' start reader cursor.advance
  | '\'' :: _ => textToken '\'' start reader cursor.advance
  | '`' :: _ => textToken '`' start reader (skipFirstBreak cursor.advance)
  | '-' :: digit :: _ =>
      if digit.isDigit && !endsOperand reader.last then
        plain (readNumber true cursor.advance)
      else
        symbol
  | letter :: _ =>
      if letter.isDigit then
        plain (readNumber false cursor)
      else if isNameStart letter then
        let (name, rest) := cursor.takeWhile isNamePart
        if isName name then plain (.word (String.ofList name), rest)
        else plain (.invalid "malformed name", rest)
      else
        symbol

/-- All tokens from the cursor on, the last one being `finish` or `invalid`. A closing brace at
the end of an expression inside a text resumes that text right after it. -/
def readTokens : Nat → Reader → List Located
  | 0, reader => [⟨.invalid "unreadable", reader.cursor.position⟩]
  | fuel + 1, reader =>
      let cursor := reader.cursor
      let follow (result : Located × Reader) : List Located :=
        result.1 ::
          match result.1.token with
          | .invalid _ => []
          | _ => readTokens fuel result.2
      match cursor.rest with
      | '/' :: '/' :: _ =>
          let (_, rest) := cursor.takeWhile fun letter => letter != '\n'
          readTokens fuel ⟨rest, reader.braces, reader.last⟩
      | '/' :: '*' :: _ =>
          let rest := skipComment (cursor.rest.length + 1) 1 (cursor.skip 2)
          readTokens fuel ⟨rest, reader.braces, reader.last⟩
      | letter :: _ =>
          if isGap letter then
            readTokens fuel ⟨cursor.advance, reader.braces, reader.last⟩
          else
            match letter, reader.braces with
            | '\x7d', 0 :: outer =>
                let after := cursor.advance
                ⟨.symbol "\x7d", cursor.position⟩ ::
                  follow (textToken '`' after.position ⟨cursor, outer, .finish⟩ after)
            | _, _ => follow (readToken reader)
      | [] => [⟨.finish, cursor.position⟩]

/-- What a text longer than a limit is read as: a mistake at its beginning. -/
def Located.limited (allowed : Nat → Bool) (located : Located) : Located :=
  match located.token with
  | .text value | .fragment value =>
      if allowed value.utf8ByteSize then located
      else ⟨.invalid "text is too long", located.position⟩
  | _ => located

/-- The tokens of a text; `allowed` tells how many bytes a text in quotes may have. -/
def tokens (allowed : Nat → Bool) (text : String) : List Located :=
  (readTokens (text.length + 1) ⟨Cursor.start text, [], .finish⟩).map (Located.limited allowed)

end ScriptHost.Script
