import Mathlib

/-!
# N-Quads as bytes

Lines of a text, the labels of blank nodes in a line, and IRIs that stand for labels.
A line is cut into pieces to rename its labels.
-/

namespace Vc.NQuads

/-- A line of N-Quads. -/
abbrev Line := List UInt8

/-! ## Lines -/

/-- The line feed. -/
def newline : UInt8 := 10

/-- `strings.Split` at line feeds. -/
def split : Line → List Line
  | [] => [[]]
  | byte :: rest =>
    if byte = newline then [] :: split rest
    else match split rest with
      | [] => [[byte]]
      | line :: lines => (byte :: line) :: lines

/-- The white space that `strings.TrimSpace` cuts off. -/
def isSpace (byte : UInt8) : Bool :=
  byte = 32 || (9 ≤ byte && byte ≤ 13)

/-- The lines of a text that are not blank. -/
def parse (text : Line) : List Line :=
  (split text).filter fun line => !line.all isSpace

/-- The text of some lines. -/
def unlines (lines : List Line) : Line :=
  lines.flatMap (· ++ [newline])

theorem unlines_eq_nil_iff {lines : List Line} : unlines lines = [] ↔ lines = [] := by
  cases lines <;> simp [unlines]

/-! ## Labels -/

/-- The bytes of the label of a blank node. -/
def isLabelByte (byte : UInt8) : Bool :=
  (97 ≤ byte && byte ≤ 122) || (65 ≤ byte && byte ≤ 90) || (48 ≤ byte && byte ≤ 57) ||
    byte = 45 || byte = 95

/-- A piece of a line: a byte of its own, or a blank node. -/
inductive Piece where
  | byte (value : UInt8)
  | label (name : Line)
  deriving DecidableEq

/-- `_:` -/
def labelMark : Line := [95, 58]

def Piece.text (rename : Line → Line) : Piece → Line
  | .byte value => [value]
  | .label name => rename name

/-- Where a scan of `_:[a-zA-Z0-9\-_]+` is. -/
inductive Scan where
  | plain
  | underscore
  | label (reversed : Line)

/-- The pieces of what has been read of a label. -/
def labelPieces : Line → List Piece
  | [] => labelMark.map .byte
  | reversed => [.label reversed.reverse]

def scan : Scan → Line → List Piece
  | .plain, [] => []
  | .plain, byte :: rest =>
    if byte = 95 then scan .underscore rest else .byte byte :: scan .plain rest
  | .underscore, [] => [.byte 95]
  | .underscore, byte :: rest =>
    if byte = 58 then scan (.label []) rest
    else if byte = 95 then .byte 95 :: scan .underscore rest
    else .byte 95 :: .byte byte :: scan .plain rest
  | .label reversed, [] => labelPieces reversed
  | .label reversed, byte :: rest =>
    if isLabelByte byte then scan (.label (byte :: reversed)) rest
    else labelPieces reversed ++ .byte byte :: scan .plain rest

def pieces (line : Line) : List Piece :=
  scan .plain line

/-- The line with other texts for its blank nodes. -/
def mapLabels (rename : Line → Line) (line : Line) : Line :=
  (pieces line).flatMap (Piece.text rename)

/-! ## IRIs that stand for labels -/

/-- `<urn:bn:` -/
def urnMark : Line := [60, 117, 114, 110, 58, 98, 110, 58]

/-- What follows a mark at the begin of a line. -/
def afterMark (mark line : Line) : Option Line :=
  if mark.isPrefixOf line then some (line.drop mark.length) else none

/-- The replacement of `<urn:bn:([^>]+)>` by `_:$1`, with a bound on the number of steps. -/
def unmarkURNs : Nat → Line → Line
  | 0, line => line
  | _, [] => []
  | fuel + 1, byte :: rest =>
    match afterMark urnMark (byte :: rest) with
    | none => byte :: unmarkURNs fuel rest
    | some tail =>
      match tail.takeWhile (· ≠ 62), tail.dropWhile (· ≠ 62) with
      | _ :: _, _ :: after => labelMark ++ tail.takeWhile (· ≠ 62) ++ unmarkURNs fuel after
      | _, _ => byte :: unmarkURNs fuel rest

/-- The replacement of IRIs that stand for labels. -/
def replaceURNs (text : Line) : Line :=
  unmarkURNs text.length text

/-! ## Selections -/

/-- A text occurs in another one. -/
def contains (text part : Line) : Bool :=
  text.tails.any part.isPrefixOf

/-- The order of byte strings. -/
def lexLe : Line → Line → Bool
  | [], _ => true
  | _ :: _, [] => false
  | first :: rest, second :: others =>
    first < second || (first = second && lexLe rest others)

/-- Distinct lines, sorted. -/
def sorted (lines : List Line) : List Line :=
  lines.dedup.insertionSort (lexLe · ·)

end Vc.NQuads
