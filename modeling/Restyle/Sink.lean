set_option autoImplicit false

/-! # The sink of a printer

A sink takes the text of a printer. Text and line breaks are mandatory or optional; the pretty
layout writes both and indents, the compact layout writes the mandatory ones only. The indentation
of a line is written together with the first text on it, so an empty line stays empty. The first
line is never indented. -/

namespace Restyle

/-- How the output is laid out. -/
inductive Layout where
  | pretty
  | compact
deriving DecidableEq, Repr

/-- The output so far, the level of indentation, and whether the next text starts a line. -/
structure Sink where
  layout : Layout
  buffer : String
  level : Nat
  atLineStart : Bool
deriving DecidableEq, Repr

namespace Sink

/-- An empty sink. -/
def empty (layout : Layout) : Sink := ⟨layout, "", 0, false⟩

/-- Whether optional parts are left out. -/
def isCompact (s : Sink) : Bool := s.layout = .compact

/-- The indentation that a text is to be preceded by. -/
def indentation (s : Sink) : String :=
  if s.atLineStart && !s.isCompact then String.ofList (List.replicate (2 * s.level) ' ') else ""

/-- Write a text. An empty text leaves everything as it is. -/
def write (s : Sink) (text : String) : Sink :=
  if text.isEmpty then s
  else { s with buffer := s.buffer ++ s.indentation ++ text, atLineStart := false }

/-- Write an optional text. -/
def writeOptional (s : Sink) (text : String) : Sink :=
  if s.isCompact then s else s.write text

/-- Write a line break. -/
def breakLine (s : Sink) : Sink := { s with buffer := s.buffer.push '\n', atLineStart := true }

/-- Write an optional line break. -/
def breakLineOptional (s : Sink) : Sink := if s.isCompact then s else s.breakLine

/-- Indent the following lines by one more level. -/
def indent (s : Sink) : Sink := { s with level := s.level + 1 }

/-- Indent the following lines by one level less, if there is one. -/
def dedent (s : Sink) : Sink := { s with level := s.level - 1 }

end Sink

end Restyle
