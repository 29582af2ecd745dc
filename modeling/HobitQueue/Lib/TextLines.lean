import HobitQueue.Lib.Text
import Mathlib.Data.List.DropRight

/-!
# Reading the lines of a printed text

A program prints records on lines, and another reads them back by cutting the text at its
newlines and trimming what it finds.

## Main definitions

* `lines` — the lines of a text, each without its line ending.
* `trimmed`, `trimmedEnd` — a text without the white space at its ends.
-/

namespace TextLines

/-! ## Lines -/

def newline : Char := Char.ofNat 10

def carriageReturn : Char := Char.ofNat 13

/-- A line before its newline loses one carriage return. -/
def withoutReturn (line : List Char) : List Char :=
  if line.getLast? = some carriageReturn then line.dropLast else line

/-- The lines of a text that continues a line. -/
def linesFrom (line : List Char) : List Char → List (List Char)
  | [] => if line = [] then [] else [line]
  | c :: rest =>
    if c = newline then withoutReturn line :: linesFrom [] rest else linesFrom (line ++ [c]) rest

/-- `str::lines`. -/
def lines (text : List Char) : List (List Char) := linesFrom [] text

/-! ## White space -/

def trimmedEnd (text : List Char) : List Char := text.rdropWhile Text.isWhiteSpace

def trimmed (text : List Char) : List Char :=
  trimmedEnd (text.dropWhile Text.isWhiteSpace)

end TextLines
