/-! # Lines — a source text as numbered lines

    Each line feed ends a line, and a carriage return directly before it
    belongs to the line end.  Text after the last line feed is a line of
    its own, an empty rest is none; a carriage return elsewhere is an
    ordinary character.

    A number has 32 bits, so a text that has more lines than there are
    numbers gives some of them twice. -/

namespace TimingScript.Source

/-- The number of a line.  It has 32 bits: numbers are given out by
    `numberAt`, and that never reaches `lineLimit`. -/
abbrev LineNumber := Nat

/-- How many numbers there are for lines. -/
def lineLimit : Nat := Nat.pow 2 32

/-- The number of the line at a place, counted from zero.  Lines are
    numbered from 1; behind the last number they begin anew with 0. -/
def numberAt (place : Nat) : LineNumber := (place + 1) % lineLimit

/-- Cuts a text at its line feeds: the part before the first one, and
    the parts after each. -/
def segments (text : List Char) : List Char × List (List Char) :=
  text.foldr
    (fun c (first, others) =>
      if c = '\n' then ([], first :: others) else (c :: first, others))
    ([], [])

/-- A line without the carriage return that belongs to its end. -/
def stripReturn (line : List Char) : List Char :=
  if line.getLast? = some '\r' then line.dropLast else line

/-- Turns segments into lines: all but the last were ended by a line
    feed, and the last counts only if it holds something. -/
def ofSegments (parts : List (List Char)) : List (List Char) :=
  let rest := parts.getLast?.getD []
  parts.dropLast.map stripReturn ++ if rest.isEmpty then [] else [rest]

/-- The lines of a text, without their ends. -/
def lines (text : String) : List String :=
  let (first, others) := segments text.toList
  (ofSegments (first :: others)).map String.ofList

/-- The lines of a text with their numbers. -/
def numberedLines (text : String) : List (LineNumber × String) :=
  (lines text).zipIdx.map fun (line, place) => (numberAt place, line)

end TimingScript.Source
