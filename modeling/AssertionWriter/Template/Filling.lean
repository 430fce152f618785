/-
  AssertionWriter.Template.Filling

  Values for holes, and the filling of a text: the tokens of one hole after the other are
  replaced by its value, in the order in which the holes got their values. Also the tokens
  that are left in a text, and texts for the default package.
-/
import AssertionWriter.Entries
import AssertionWriter.Template.Hole
import AssertionWriter.Text.Basic
import AssertionWriter.Text.Blank

namespace AssertionWriter.Template
open Text

/-- Values for holes, each of which has one at most. -/
structure Filling where
  entries : List (Hole × String)
  distinct : (entries.map (·.1)).Nodup

namespace Filling

/-- No values. -/
def empty : Filling := ⟨[], List.nodup_nil⟩

instance : Inhabited Filling := ⟨empty⟩

/-- The value of a hole. -/
def get? (f : Filling) (h : Hole) : Option String := f.entries.lookup h

/-- The filling with a value for one hole more, or with another value for it. -/
def set (f : Filling) (h : Hole) (value : String) : Filling :=
  ⟨setEntry h value f.entries, nodup_keys_setEntry h value f.distinct⟩

@[simp] theorem get?_empty (h : Hole) : empty.get? h = none := rfl

/-- The hole that is set has the new value, and all others are as before. -/
theorem get?_set (f : Filling) (h : Hole) (value : String) (k : Hole) :
    (f.set h value).get? k = if k = h then some value else f.get? k :=
  lookup_setEntry h value f.entries k

theorem get?_eq_some_iff {f : Filling} {h : Hole} {v : String} :
    f.get? h = some v ↔ (h, v) ∈ f.entries :=
  lookup_eq_some_iff_mem f.distinct

/-- The filling of a list of values; of two for one hole the last counts. -/
def ofList (entries : List (Hole × String)) : Filling :=
  entries.foldl (fun f e => f.set e.1 e.2) empty

/-- Replaces the tokens of one hole. -/
def fillHole (text : List Char) (entry : Hole × String) : List Char :=
  replaceAll entry.1.token.toList entry.2.toList text

/-- The text with its holes filled; the token of a hole without a value stays. -/
def fill (f : Filling) (text : String) : String :=
  String.ofList (f.entries.foldl fillHole text.toList)

end Filling

/-! ## Tokens left -/

/-- The tokens in a text: what stands from a dollar sign with an opening brace to the next closing
    brace or the end of the text. `opened` is what has been read of a token, last first. -/
def tokensFrom (opened : Option (List Char)) (s : List Char) : List (List Char) :=
  match opened, s with
  | none, '$' :: '\x7b' :: r => tokensFrom (some ['\x7b', '$']) r
  | none, _ :: r => tokensFrom none r
  | none, [] => []
  | some token, '\x7d' :: r => ('\x7d' :: token).reverse :: tokensFrom none r
  | some token, c :: r => tokensFrom (some (c :: token)) r
  | some token, [] => [token.reverse]

/-- The tokens in a text, in order. -/
def tokensIn (text : String) : List String := (tokensFrom none text.toList).map String.ofList

/-! ## The default package -/

/-- The line that declares the package in a template. -/
def packageLine : String := "package " ++ Hole.package.token ++ ";"

/-- The lines without those that declare the package, and without a blank line behind each. -/
def dropPackageLines : List (List Char) → List (List Char)
  | [] => []
  | line :: lines =>
    if trim line = packageLine.toList then
      match lines with
      | [] => []
      | next :: rest =>
        if trim next = [] then dropPackageLines rest else dropPackageLines (next :: rest)
    else line :: dropPackageLines lines

/-- A template for code in the default package, which is not declared. -/
def withoutPackage (text : String) : String :=
  String.ofList (dropPackageLines (linesWithEnds text.toList)).flatten

end AssertionWriter.Template
