import ArmTokens.Position
import ArmTokens.Span
import ArmTokens.Text.Decimal
import ArmTokens.Text.Width

/-!
# Diagnostics

A diagnostic names what went wrong and where, shows the lines of the source
where the span begins and ends, and draws carets below the text of the span. A
span on one line has one excerpt, any other has two.
-/

set_option autoImplicit false

namespace ArmTokens

structure Excerpt where
  number : Nat
  line : List Char
  /-- How many blanks stand below the line number. -/
  gutter : Nat
  mark : Char
  indent : Nat
  carets : Nat
  note : List Char
  deriving DecidableEq, Repr

namespace Excerpt

def row (e : Excerpt) : List Char :=
  decimal e.number ++ [' ', '|', ' '] ++ e.line ++ ['\n']

def underline (e : Excerpt) : List Char :=
  List.replicate e.gutter ' ' ++ [' ', e.mark, ' '] ++
    List.replicate e.indent ' ' ++ List.replicate e.carets '^' ++ e.note ++ ['\n']

def render (e : Excerpt) : List Char := e.row ++ e.underline

end Excerpt

def lineAt (text : List Char) (number : Nat) : List Char :=
  withoutReturn ((lines text)[number - 1]?.getD [])

/-- Part of a line between two columns that its end bounds. -/
def columns (line : List Char) (start stop : Nat) : Except RangeError (List Char) :=
  match slice? line (min start (byteLength line)) (min stop (byteLength line)) with
  | some part => .ok part
  | none => .error .offBoundary

variable [ColumnWidth]

def oneLineExcerpt (text : List Char) (start stop : Position) (note : List Char) :
    Except RangeError Excerpt := do
  let line := lineAt text start.line
  let before ← columns line 0 start.column
  let under ← columns line start.column stop.column
  return {
    number := start.line
    line := line
    gutter := (decimal start.line).length
    mark := ' '
    indent := displayWidth before
    carets := max (displayWidth under) 1
    note := ' ' :: note }

/-- The line where the span begins, with carets up to its end. Its gutter is
that of the last line. -/
def firstExcerpt (text : List Char) (start stop : Position) : Except RangeError Excerpt := do
  let line := lineAt text start.line
  let before ← columns line 0 start.column
  let under ← columns line start.column (byteLength line)
  return {
    number := start.line
    line := line
    gutter := (decimal stop.line).length
    mark := ':'
    indent := displayWidth before
    carets := displayWidth under
    note := [] }

def lastExcerpt (text : List Char) (stop : Position) (note : List Char) :
    Except RangeError Excerpt := do
  let line := lineAt text stop.line
  let under ← columns line 0 stop.column
  return {
    number := stop.line
    line := line
    gutter := (decimal stop.line).length
    mark := ' '
    indent := 0
    carets := displayWidth under
    note := ' ' :: note }

def excerpts (text : List Char) (span : Span) (note : List Char) :
    Except RangeError (List Excerpt) := do
  let start := Position.ofOffset text span.offset
  let stop := Position.ofOffset text (← span.stop)
  if start.line = stop.line then
    return [← oneLineExcerpt text start stop note]
  else
    return [← firstExcerpt text start stop, ← lastExcerpt text stop note]

def headline (what name : String) : List Char :=
  "[error] ".toList ++ what.toList ++ " at ".toList ++ name.toList ++ ['\n']

/-- Renders a diagnostic. There is none only when the end of the span does not
exist. -/
def render (text : String) (span : Span) (name what note : String) : Except RangeError String := do
  let es ← excerpts text.toList span note.toList
  return String.ofList (headline what name ++ es.flatMap Excerpt.render)

end ArmTokens
