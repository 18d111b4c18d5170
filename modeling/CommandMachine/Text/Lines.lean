namespace CommandMachine
namespace Text

/-!
A text falls into lines at its line feeds.  One carriage return in front of a
line feed belongs to the line break; a carriage return anywhere else stays in
the line.  A text that ends in a line feed has no empty last line.
-/

/-- Removes the carriage return that stands last in a line.  The line is given
last character first. -/
def dropReturn : List Char → List Char
  | '\r' :: earlier => earlier
  | line => line

/-- The lines of a text whose first line has already been read up to `current`,
last character first. -/
def linesFrom (current : List Char) : List Char → List (List Char)
  | [] => if current.isEmpty then [] else [current.reverse]
  | '\n' :: rest => (dropReturn current).reverse :: linesFrom [] rest
  | character :: rest => linesFrom (character :: current) rest

/-- The lines of a text, without their line breaks. -/
def lines (text : String) : List String :=
  (linesFrom [] text.toList).map String.ofList

end Text
end CommandMachine
