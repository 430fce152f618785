/-
  AssertionWriter.Template.Layout

  Templates as they are written here: a sequence of texts and holes, line by line.
-/
import AssertionWriter.Template.Hole

namespace AssertionWriter.Template

/-- A piece of a template. -/
inductive Segment where
  | text (s : String)
  | hole (h : Hole)
  deriving DecidableEq, Repr

instance : Coe String Segment := ⟨.text⟩
instance : Coe Hole Segment := ⟨.hole⟩

/-- The text of a piece. -/
def Segment.toText : Segment → String
  | text s => s
  | hole h => h.token

/-- A line of a template, without the line feed at its end. -/
abbrev Line := List Segment

/-- A template as its lines. -/
abbrev Layout := List Line

/-- A line of several parts. -/
def pieces (parts : List Line) : Line := parts.flatten

/-- A template of several parts. -/
def blocks (parts : List Layout) : Layout := parts.flatten

/-- The pieces of a template, line feeds among them. -/
def Layout.segments (layout : Layout) : List Segment := layout.flatMap (· ++ [.text "\n"])

/-- The text of a template. -/
def Layout.toText (layout : Layout) : String := String.join (layout.segments.map Segment.toText)

end AssertionWriter.Template
