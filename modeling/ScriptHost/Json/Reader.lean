import ScriptHost.Decimal.Read

/-!
Reading JSON texts.

Members keep their order and their repetitions, numbers keep their digits: what a repeated member
or an integer beyond 64 bits means is decided where a document is taken apart. Lists and objects
nest at most `Json.maximalDepth` deep.
-/

namespace ScriptHost

structure JsonNumber where
  negative : Bool
  written : Decimal.Written
  /-- Written with neither a fraction nor an exponent. -/
  whole : Bool
deriving Repr

inductive Json where
  | null
  | boolean (value : Bool)
  | number (value : JsonNumber)
  | text (value : String)
  | list (items : List Json)
  | object (members : List (String × Json))
deriving Repr, Inhabited

namespace Json

def maximalDepth : Nat := 127

def isBlank (letter : Char) : Bool :=
  letter == ' ' || letter == '\t' || letter == '\n' || letter == '\r'

def skipBlanks (input : List Char) : List Char :=
  input.dropWhile isBlank

def hexValue? (letter : Char) : Option Nat :=
  if letter.isDigit then some (letter.toNat - '0'.toNat)
  else if 'a' ≤ letter ∧ letter ≤ 'f' then some (letter.toNat - 'a'.toNat + 10)
  else if 'A' ≤ letter ∧ letter ≤ 'F' then some (letter.toNat - 'A'.toNat + 10)
  else none

def readUnit? : List Char → Option (Nat × List Char)
  | first :: second :: third :: fourth :: rest => do
      let high ← hexValue? first
      let upper ← hexValue? second
      let lower ← hexValue? third
      let low ← hexValue? fourth
      some (((high * 16 + upper) * 16 + lower) * 16 + low, rest)
  | _ => none

def isHighSurrogate (unit : Nat) : Bool := 0xD800 ≤ unit && unit < 0xDC00

def isLowSurrogate (unit : Nat) : Bool := 0xDC00 ≤ unit && unit < 0xE000

/-- The character of one escape in UTF-16 units; a surrogate counts only as half of a pair. -/
def readUnicode? (input : List Char) : Option (Char × List Char) := do
  let (unit, rest) ← readUnit? input
  if isHighSurrogate unit then
    match rest with
    | '\\' :: 'u' :: tail =>
        let (second, rest) ← readUnit? tail
        if isLowSurrogate second then
          some (Char.ofNat (0x10000 + (unit - 0xD800) * 0x400 + (second - 0xDC00)), rest)
        else
          none
    | _ => none
  else if isLowSurrogate unit then
    none
  else
    some (Char.ofNat unit, rest)

def readEscape? : List Char → Option (Char × List Char)
  | '"' :: rest => some ('"', rest)
  | '\\' :: rest => some ('\\', rest)
  | '/' :: rest => some ('/', rest)
  | 'b' :: rest => some ('\x08', rest)
  | 'f' :: rest => some ('\x0c', rest)
  | 'n' :: rest => some ('\n', rest)
  | 'r' :: rest => some ('\r', rest)
  | 't' :: rest => some ('\t', rest)
  | 'u' :: rest => readUnicode? rest
  | _ => none

def readText? : Nat → List Char → List Char → Option (String × List Char)
  | 0, _, _ => none
  | _ + 1, _, [] => none
  | _ + 1, done, '"' :: rest => some (String.ofList done.reverse, rest)
  | fuel + 1, done, '\\' :: rest => do
      let (letter, rest) ← readEscape? rest
      readText? fuel (letter :: done) rest
  | fuel + 1, done, letter :: rest =>
      if letter.toNat < 0x20 then none else readText? fuel (letter :: done) rest

def readSign : List Char → Bool × List Char
  | '-' :: rest => (true, rest)
  | input => (false, input)

def readFraction? : List Char → Option (Option (List Char) × List Char)
  | '.' :: rest =>
      let fraction := rest.takeWhile Char.isDigit
      if fraction.isEmpty then none else some (some fraction, rest.dropWhile Char.isDigit)
  | input => some (none, input)

def readScaled? (sign : Int) (input : List Char) : Option (Option Int × List Char) :=
  let power := input.takeWhile Char.isDigit
  if power.isEmpty then none
  else some (some (sign * Decimal.natOfDigits power), input.dropWhile Char.isDigit)

def readPower? : List Char → Option (Option Int × List Char)
  | 'e' :: '+' :: rest | 'E' :: '+' :: rest => readScaled? 1 rest
  | 'e' :: '-' :: rest | 'E' :: '-' :: rest => readScaled? (-1) rest
  | 'e' :: rest | 'E' :: rest => readScaled? 1 rest
  | input => some (none, input)

/-- No leading zeros, and digits on both sides of a point. -/
def readNumber? (input : List Char) : Option (JsonNumber × List Char) := do
  let (negative, input) := readSign input
  let digits := input.takeWhile Char.isDigit
  guard (!digits.isEmpty && (digits.length == 1 || digits.head? != some '0'))
  let (fraction, input) ← readFraction? (input.dropWhile Char.isDigit)
  let (power, input) ← readPower? input
  some (⟨negative, ⟨digits, fraction.getD [], power.getD 0⟩, fraction.isNone && power.isNone⟩,
    input)

def readWord? (word : List Char) (input : List Char) : Option (List Char) :=
  if word.isPrefixOf input then some (input.drop word.length) else none

mutual

def readValue? : Nat → Nat → List Char → Option (Json × List Char)
  | 0, _, _ => none
  | fuel + 1, depth, input =>
      match skipBlanks input with
      | 'n' :: rest => (readWord? "ull".toList rest).map fun rest => (.null, rest)
      | 't' :: rest => (readWord? "rue".toList rest).map fun rest => (.boolean true, rest)
      | 'f' :: rest => (readWord? "alse".toList rest).map fun rest => (.boolean false, rest)
      | '"' :: rest =>
          (readText? (rest.length + 1) [] rest).map fun (value, rest) => (.text value, rest)
      | '[' :: rest =>
          match depth with
          | 0 => none
          | depth + 1 =>
              match skipBlanks rest with
              | ']' :: rest => some (.list [], rest)
              | _ => readItems? fuel depth [] rest
      | '{' :: rest =>
          match depth with
          | 0 => none
          | depth + 1 =>
              match skipBlanks rest with
              | '}' :: rest => some (.object [], rest)
              | _ => readMembers? fuel depth [] rest
      | rest => (readNumber? rest).map fun (value, rest) => (.number value, rest)

def readItems? : Nat → Nat → List Json → List Char → Option (Json × List Char)
  | 0, _, _, _ => none
  | fuel + 1, depth, done, input => do
      let (item, rest) ← readValue? fuel depth input
      match skipBlanks rest with
      | ',' :: rest => readItems? fuel depth (item :: done) rest
      | ']' :: rest => some (.list (item :: done).reverse, rest)
      | _ => none

def readMembers? : Nat → Nat → List (String × Json) → List Char → Option (Json × List Char)
  | 0, _, _, _ => none
  | fuel + 1, depth, done, input =>
      match skipBlanks input with
      | '"' :: rest => do
          let (key, rest) ← readText? (rest.length + 1) [] rest
          match skipBlanks rest with
          | ':' :: rest =>
              let (value, rest) ← readValue? fuel depth rest
              match skipBlanks rest with
              | ',' :: rest => readMembers? fuel depth ((key, value) :: done) rest
              | '}' :: rest => some (.object ((key, value) :: done).reverse, rest)
              | _ => none
          | _ => none
      | _ => none

end

/-- The rest after a string whose opening quote has been read. Four digits after `\\u` are enough,
whatever they stand for. -/
def skipText? : Nat → List Char → Option (List Char)
  | 0, _ | _ + 1, [] => none
  | _ + 1, '"' :: rest => some rest
  | fuel + 1, '\\' :: 'u' :: rest => do
      let (_, rest) ← readUnit? rest
      skipText? fuel rest
  | fuel + 1, '\\' :: rest => do
      let (_, rest) ← readEscape? rest
      skipText? fuel rest
  | fuel + 1, letter :: rest =>
      if letter.toNat < 0x20 then none else skipText? fuel rest

mutual

def skipValue? : Nat → List Char → Option (List Char)
  | 0, _ => none
  | fuel + 1, input =>
      match skipBlanks input with
      | 'n' :: rest => readWord? "ull".toList rest
      | 't' :: rest => readWord? "rue".toList rest
      | 'f' :: rest => readWord? "alse".toList rest
      | '"' :: rest => skipText? (rest.length + 1) rest
      | '[' :: rest =>
          match skipBlanks rest with
          | ']' :: rest => some rest
          | _ => skipItems? fuel rest
      | '{' :: rest =>
          match skipBlanks rest with
          | '}' :: rest => some rest
          | _ => skipMembers? fuel rest
      | rest => (readNumber? rest).map Prod.snd

def skipItems? : Nat → List Char → Option (List Char)
  | 0, _ => none
  | fuel + 1, input => do
      let rest ← skipValue? fuel input
      match skipBlanks rest with
      | ',' :: rest => skipItems? fuel rest
      | ']' :: rest => some rest
      | _ => none

def skipMembers? : Nat → List Char → Option (List Char)
  | 0, _ => none
  | fuel + 1, input =>
      match skipBlanks input with
      | '"' :: rest => do
          let rest ← skipText? (rest.length + 1) rest
          match skipBlanks rest with
          | ':' :: rest =>
              let rest ← skipValue? fuel rest
              match skipBlanks rest with
              | ',' :: rest => skipMembers? fuel rest
              | '}' :: rest => some rest
              | _ => none
          | _ => none
      | _ => none

end

/-- Members of an object, up to its closing brace; only those with one of the names are kept. -/
def readChosen? (names : List String) :
    Nat → List (String × Json) → List Char → Option (Json × List Char)
  | 0, _, _ => none
  | fuel + 1, done, input =>
      match skipBlanks input with
      | '"' :: rest => do
          let (key, rest) ← readText? (rest.length + 1) [] rest
          match skipBlanks rest with
          | ':' :: rest =>
              let (done, rest) ← if names.contains key then
                  (readValue? (2 * rest.length + 2) maximalDepth rest).map fun (value, rest) =>
                    ((key, value) :: done, rest)
                else
                  (skipValue? (2 * rest.length + 2) rest).map fun rest => (done, rest)
              match skipBlanks rest with
              | ',' :: rest => readChosen? names fuel done rest
              | '}' :: rest => some (.object done.reverse, rest)
              | _ => none
          | _ => none
      | _ => none

def whole? (result : Option (Json × List Char)) : Option Json := do
  let (value, rest) ← result
  if (skipBlanks rest).isEmpty then some value else none

def read? (input : String) : Option Json :=
  let letters := input.toList
  whole? (readValue? (2 * letters.length + 2) maximalDepth letters)

/-- The value that fills a text. If it is an object, only the members with one of the names
matter. -/
def readMembersNamed? (names : List String) (input : String) : Option Json :=
  match skipBlanks input.toList with
  | '{' :: rest =>
      match skipBlanks rest with
      | '}' :: rest => whole? (some (.object [], rest))
      | _ => whole? (readChosen? names (rest.length + 1) [] rest)
  | _ => read? input

end Json
end ScriptHost
