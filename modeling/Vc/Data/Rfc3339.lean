import Vc.Data.JsonReader

/-!
# RFC 3339 instants

The texts that `time.Parse` takes for the layout `time.RFC3339`, and for the
same layout in UTC.  It is laxer than the RFC: an hour may have one digit, a
comma may start the fraction, and an offset may be as large as 24:60.
-/

namespace Vc.Rfc3339

open Json (digit? isDigit)

structure DateTime where
  year : Nat
  month : Nat
  day : Nat
  hour : Nat
  minute : Nat
  second : Nat
  deriving DecidableEq

def isLeap (year : Nat) : Bool :=
  year % 4 = 0 && (year % 100 ≠ 0 || year % 400 = 0)

def daysIn (month year : Nat) : Nat :=
  if month = 2 then (if isLeap year then 29 else 28)
  else if month = 4 ∨ month = 6 ∨ month = 9 ∨ month = 11 then 30
  else 31

/-- The fields denote an instant. -/
def DateTime.isReal (instant : DateTime) : Bool :=
  1 ≤ instant.month && instant.month ≤ 12 && 1 ≤ instant.day &&
    instant.day ≤ daysIn instant.month instant.year && instant.hour < 24 &&
    instant.minute < 60 && instant.second < 60

/-- A number of two digits. -/
def readTwo : List Char → Option (Nat × List Char)
  | a :: b :: rest =>
    match digit? a, digit? b with
    | some tens, some ones => some (10 * tens + ones, rest)
    | _, _ => none
  | _ => none

/-- A number of one or two digits. -/
def readOneOrTwo : List Char → Option (Nat × List Char)
  | [] => none
  | a :: rest =>
    match digit? a, readTwo (a :: rest) with
    | none, _ => none
    | some _, some both => some both
    | some one, none => some (one, rest)

/-- A number of four digits. -/
def readFour (text : List Char) : Option (Nat × List Char) :=
  match readTwo text with
  | none => none
  | some (century, rest) => (readTwo rest).map fun parts => (100 * century + parts.1, parts.2)

/-- The text after a character that has to come next. -/
def expect (char : Char) : List Char → Option (List Char)
  | [] => none
  | first :: rest => if first = char then some rest else none

/-- The text after a fraction of a second, if there is one. -/
def skipFraction : List Char → List Char
  | first :: second :: rest =>
    if (first = '.' ∨ first = ',') ∧ isDigit second then rest.dropWhile isDigit
    else first :: second :: rest
  | text => text

/-- A text that is an offset from UTC and nothing more. -/
def isOffset : List Char → Bool
  | ['Z'] => true
  | [sign, a, b, ':', c, d] =>
    (sign = '+' || sign = '-') &&
      match readTwo [a, b], readTwo [c, d] with
      | some (hours, _), some (minutes, _) => hours ≤ 24 && minutes ≤ 60
      | _, _ => false
  | _ => false

/-- `time.Parse`, without the offset and the fraction, for layouts that differ in how they end. -/
def parseLayout (isEnd : List Char → Bool) (text : List Char) : Option DateTime := do
  let year ← readFour text
  let month ← (expect '-' year.2).bind readTwo
  let day ← (expect '-' month.2).bind readTwo
  let hour ← (expect 'T' day.2).bind readOneOrTwo
  let minute ← (expect ':' hour.2).bind readTwo
  let second ← (expect ':' minute.2).bind readTwo
  let instant : DateTime := ⟨year.1, month.1, day.1, hour.1, minute.1, second.1⟩
  if instant.isReal ∧ isEnd (skipFraction second.2) then some instant else none

/-- The layout `2006-01-02T15:04:05Z07:00`, which is `time.RFC3339`. -/
def parse : List Char → Option DateTime :=
  parseLayout isOffset

/-- The layout `2006-01-02T15:04:05Z`. -/
def parseUTC : List Char → Option DateTime :=
  parseLayout (· = ['Z'])

example : parse "2024-02-29T23:59:59Z".toList = some ⟨2024, 2, 29, 23, 59, 59⟩ := by
  decide +kernel

example : parse "2023-02-29T23:59:59.5+01:00".toList = none := by decide +kernel

/-- A layout that ends in more ways takes more texts. -/
theorem parseLayout_mono {isEnd others : List Char → Bool} {text : List Char}
    {instant : DateTime} (implies : ∀ rest, isEnd rest = true → others rest = true)
    (parsed : parseLayout isEnd text = some instant) :
    parseLayout others text = some instant := by
  simp only [parseLayout, Option.bind_eq_bind, Option.bind_eq_some_iff] at parsed ⊢
  obtain ⟨year, hasYear, month, hasMonth, day, hasDay, hour, hasHour, minute, hasMinute, second,
    hasSecond, parsed⟩ := parsed
  refine ⟨year, hasYear, month, hasMonth, day, hasDay, hour, hasHour, minute, hasMinute, second,
    hasSecond, ?_⟩
  split_ifs at parsed with real
  rw [if_pos ⟨real.1, implies _ real.2⟩]
  exact parsed

theorem parse_of_parseUTC {text : List Char} {instant : DateTime}
    (parsed : parseUTC text = some instant) : parse text = some instant :=
  parseLayout_mono (fun rest ends => by rw [of_decide_eq_true ends]; rfl) parsed

end Vc.Rfc3339
