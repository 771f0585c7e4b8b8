/-!
# Finding a piece of text

Leftmost search over lists of characters. A piece is found by comparing it with every tail of
the text in turn, so the first place that fits is the leftmost one.

## Main definitions

* `Text.splitAt?`: the text before and after the leftmost occurrence of a piece.
-/

namespace TaskDesk.Text

/-- The text before and after the leftmost occurrence of `piece`. -/
def splitAt? {α : Type} [DecidableEq α] (piece : List α) : List α → Option (List α × List α)
  | [] => (piece.isPrefixOf? []).map fun rest => ([], rest)
  | c :: cs =>
    match piece.isPrefixOf? (c :: cs) with
    | some rest => some ([], rest)
    | none => (splitAt? piece cs).map fun (before, rest) => (c :: before, rest)

end TaskDesk.Text
