import Vc.Data.JsonTree

/-!
# Reading JSON texts

A reader of RFC 8259 texts that keeps the members of an object in their order.
It takes one value off the front of the text; read with `unique`, it stops at
the first name that an object repeats.  Escaped surrogates that form no pair
are replaced, as most readers do.
-/

namespace Vc.Json

open Checks

/-- Why a reader of texts stops. -/
inductive TextFault where
  | malformed
  | duplicate (name : String)
  | outOfFuel
  deriving DecidableEq

/-- The white space of JSON. -/
def isSpace (char : Char) : Bool :=
  char = ' ' || char = '\t' || char = '\n' || char = '\r'

variable (text : List Char)

/-- The text without leading white space. -/
def skipSpace : List Char :=
  text.dropWhile isSpace

/-- The value of a decimal digit. -/
def digit? (char : Char) : Option Nat :=
  if '0' ≤ char ∧ char ≤ '9' then some (char.toNat - '0'.toNat) else none

/-- The value of a hexadecimal digit. -/
def hexDigit? (char : Char) : Option Nat :=
  if '0' ≤ char ∧ char ≤ '9' then some (char.toNat - '0'.toNat)
  else if 'a' ≤ char ∧ char ≤ 'f' then some (char.toNat - 'a'.toNat + 10)
  else if 'A' ≤ char ∧ char ≤ 'F' then some (char.toNat - 'A'.toNat + 10)
  else none

/-! ## Strings -/

/-- A part of a string: a character, or a UTF-16 unit that was escaped. -/
inductive Piece where
  | char (char : Char)
  | unit (value : Nat)

/-- The character of a one-letter escape. -/
def escape? : Char → Option Char
  | '"' => some '"'
  | '\\' => some '\\'
  | '/' => some '/'
  | 'b' => some '\x08'
  | 'f' => some '\x0c'
  | 'n' => some '\n'
  | 'r' => some '\r'
  | 't' => some '\t'
  | _ => none

/-- The unit of four hexadecimal digits. -/
def unit? (a b c d : Char) : Option Nat := do
  let first ← hexDigit? a
  let second ← hexDigit? b
  let third ← hexDigit? c
  let fourth ← hexDigit? d
  some (((first * 16 + second) * 16 + third) * 16 + fourth)

/-- The parts of a string, up to the quote that ends it. -/
def readPieces : List Char → Option (List Piece × List Char)
  | [] => none
  | '"' :: rest => some ([], rest)
  | '\\' :: 'u' :: a :: b :: c :: d :: rest =>
    match unit? a b c d, readPieces rest with
    | some unit, some (pieces, later) => some (.unit unit :: pieces, later)
    | _, _ => none
  | '\\' :: escaped :: rest =>
    match escape? escaped, readPieces rest with
    | some char, some (pieces, later) => some (.char char :: pieces, later)
    | _, _ => none
  | char :: rest =>
    if char < ' ' ∨ char = '\\' then none
    else (readPieces rest).map fun parts => (.char char :: parts.1, parts.2)

/-- The unit starts a surrogate pair. -/
def isHighSurrogate (unit : Nat) : Bool := 0xd800 ≤ unit && unit < 0xdc00

/-- The unit ends a surrogate pair. -/
def isLowSurrogate (unit : Nat) : Bool := 0xdc00 ≤ unit && unit < 0xe000

/-- The characters of a string; `Char.ofNat` of a surrogate would not be one. -/
def joinPieces : List Piece → List Char
  | [] => []
  | .char char :: rest => char :: joinPieces rest
  | .unit high :: .unit low :: rest =>
    if isHighSurrogate high && isLowSurrogate low then
      Char.ofNat (0x10000 + (high - 0xd800) * 0x400 + (low - 0xdc00)) :: joinPieces rest
    else if isHighSurrogate high || isLowSurrogate high then
      '�' :: joinPieces (.unit low :: rest)
    else Char.ofNat high :: joinPieces (.unit low :: rest)
  | .unit unit :: rest =>
    (if isHighSurrogate unit || isLowSurrogate unit then '�' else Char.ofNat unit) ::
      joinPieces rest

/-- A string, after its opening quote. -/
def readString : Except TextFault (String × List Char) :=
  match readPieces text with
  | none => .error .malformed
  | some (pieces, rest) => .ok (String.ofList (joinPieces pieces), rest)

/-! ## Numbers and literals -/

def isDigit (char : Char) : Bool :=
  (digit? char).isSome

def readDigits : Option (List Char × List Char) :=
  if text.takeWhile isDigit = [] then none
  else some (text.takeWhile isDigit, text.dropWhile isDigit)

/-- The part of a number in front of its fraction: no zero leads other digits. -/
def readInteger : List Char → Option (List Char × List Char)
  | '0' :: rest => some (['0'], rest)
  | text => readDigits text

/-- The fraction of a number, if it has one. -/
def readFraction : List Char → Option (List Char × List Char)
  | '.' :: rest => (readDigits rest).map fun parts => ('.' :: parts.1, parts.2)
  | text => some ([], text)

/-- The sign of an exponent. -/
def readSign : List Char → List Char × List Char
  | '+' :: rest => (['+'], rest)
  | '-' :: rest => (['-'], rest)
  | text => ([], text)

/-- The exponent of a number, if it has one. -/
def readExponent : List Char → Option (List Char × List Char)
  | [] => some ([], [])
  | first :: rest =>
    if first = 'e' ∨ first = 'E' then
      (readDigits (readSign rest).2).map fun parts =>
        (first :: (readSign rest).1 ++ parts.1, parts.2)
    else some ([], first :: rest)

/-- A number without its sign. -/
def readMagnitude : Option (List Char × List Char) := do
  let integer ← readInteger text
  let fraction ← readFraction integer.2
  let exponent ← readExponent fraction.2
  some (integer.1 ++ fraction.1 ++ exponent.1, exponent.2)

/-- A number, as its literal. -/
def readNumber : List Char → Option (List Char × List Char)
  | '-' :: rest => (readMagnitude rest).map fun parts => ('-' :: parts.1, parts.2)
  | text => readMagnitude text

/-- A value that starts with this character and has no parts. -/
def readScalar (first : Char) (rest : List Char) : Except TextFault (Json × List Char) :=
  if first = '"' then (readString rest).map fun parts => (.str parts.1, parts.2)
  else if first = 't' ∧ rest.take 3 = ['r', 'u', 'e'] then .ok (.bool true, rest.drop 3)
  else if first = 'f' ∧ rest.take 4 = ['a', 'l', 's', 'e'] then .ok (.bool false, rest.drop 4)
  else if first = 'n' ∧ rest.take 3 = ['u', 'l', 'l'] then .ok (.null, rest.drop 3)
  else
    match readNumber (first :: rest) with
    | none => .error .malformed
    | some (literal, later) => .ok (.num (String.ofList literal), later)

/-! ## Values -/

/-- The text after a character that has to come next. -/
def expect (char : Char) (text : List Char) : Except TextFault (List Char) :=
  match skipSpace text with
  | [] => .error .malformed
  | first :: rest => if first = char then .ok rest else .error .malformed

/-- What comes after a member or an element: the end of the container, or another one. -/
inductive Separator where
  | comma (rest : List Char)
  | close (rest : List Char)

/-- Read what comes after a member or an element. -/
def readSeparator (closing : Char) (text : List Char) : Except TextFault Separator :=
  match skipSpace text with
  | [] => .error .malformed
  | first :: rest =>
    if first = ',' then .ok (.comma rest)
    else if first = closing then .ok (.close rest)
    else .error .malformed

/-- The text after a container that ends at once. -/
def closedBy (closing : Char) (text : List Char) : Option (List Char) :=
  match skipSpace text with
  | [] => none
  | first :: rest => if first = closing then some rest else none

mutual
def readValue (unique : Bool) : (fuel : Nat) → List Char → Except TextFault (Json × List Char)
  | 0, _ => .error .outOfFuel
  | fuel + 1, text =>
    match skipSpace text with
    | [] => .error .malformed
    | first :: rest =>
      if first = '\x7b' then
        match closedBy '\x7d' rest with
        | some later => .ok (.obj [], later)
        | none => (readMembers unique fuel [] rest).map fun parts => (.obj parts.1, parts.2)
      else if first = '[' then
        match closedBy ']' rest with
        | some later => .ok (.arr [], later)
        | none => (readElements unique fuel rest).map fun parts => (.arr parts.1, parts.2)
      else readScalar first rest
termination_by structural fuel => fuel

/-- Read the members of an object, after those that were seen. -/
def readMembers (unique : Bool) :
    (fuel : Nat) → List String → List Char → Except TextFault (Members × List Char)
  | 0, _, _ => .error .outOfFuel
  | fuel + 1, seen, text => do
    let quoted ← expect '"' text
    let name ← readString quoted
    require (unique = true → name.1 ∉ seen) (.duplicate name.1)
    let colon ← expect ':' name.2
    let value ← readValue unique fuel colon
    let separator ← readSeparator '\x7d' value.2
    match separator with
    | .close rest => .ok ([(name.1, value.1)], rest)
    | .comma rest => (readMembers unique fuel (name.1 :: seen) rest).map fun parts =>
      ((name.1, value.1) :: parts.1, parts.2)
termination_by structural fuel => fuel

def readElements (unique : Bool) :
    (fuel : Nat) → List Char → Except TextFault (List Json × List Char)
  | 0, _ => .error .outOfFuel
  | fuel + 1, text => do
    let value ← readValue unique fuel text
    let separator ← readSeparator ']' value.2
    match separator with
    | .close rest => .ok ([value.1], rest)
    | .comma rest => (readElements unique fuel rest).map fun parts =>
      (value.1 :: parts.1, parts.2)
termination_by structural fuel => fuel
end

/-- Read the first value of a text.  Of any two calls in a chain, one has read a character, so
that the fuel is enough. -/
def readJson (unique : Bool) (text : List Char) : Except TextFault (Json × List Char) :=
  readValue unique (2 * text.length + 1) text

example : readJson true "[1, \x7b\"a\": [true, \"\\u00e9\"], \"b\": null\x7d] x".toList =
    .ok (.arr [.num "1", .obj [("a", .arr [.bool true, .str "é"]), ("b", .null)]], [' ', 'x']) := by
  decide +kernel

example : readJson true "\x7b\"a\": 1, \"a\": 2\x7d".toList = .error (.duplicate "a") := by
  decide +kernel

end Vc.Json
