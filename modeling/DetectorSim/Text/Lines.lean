/-!
# Lines of a text

A text is read line by line.  A line feed ends a line; what follows the last
line feed is a line only if it is not empty.
-/

set_option autoImplicit false

namespace DetectorSim.Text

variable {α : Type} [BEq α]

/-- The stretches of `text` between the occurrences of `separator`. -/
def pieces (separator : α) : List α → List (List α)
  | [] => [[]]
  | c :: rest =>
      if c == separator then [] :: pieces separator rest
      else
        match pieces separator rest with
        | [] => [[c]]
        | piece :: others => (c :: piece) :: others

/-- The lines of `text`, each without the line feed that ends it. -/
def linesOf (lineFeed : α) (text : List α) : List (List α) :=
  let all := pieces lineFeed text
  match all.getLast? with
  | some [] => all.dropLast
  | _ => all

end DetectorSim.Text
