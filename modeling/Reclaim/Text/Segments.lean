/-!
# Segments

A text cut at every occurrence of a separator. The segments between two separators may be empty,
and there is always at least one.
-/

namespace Reclaim.Text

def segments (separator : Char) : List Char → List (List Char)
  | [] => [[]]
  | c :: rest =>
    if c = separator then [] :: segments separator rest
    else match segments separator rest with
      | [] => [[c]]
      | first :: others => (c :: first) :: others

end Reclaim.Text
