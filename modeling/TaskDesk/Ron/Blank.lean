/-!
# Blanks and comments in RON text

White space and comments may stand between any two pieces of RON. A line comment ends with its
line; a block comment may hold other block comments.

## Main definitions

* `Ron.isBlankChar`: the Unicode property `Pattern_White_Space`.
* `Ron.skipBlank`: what follows the blanks at the front of a text.
-/

namespace TaskDesk.Ron

/-- The Unicode property `Pattern_White_Space`. -/
def isBlankChar (c : Char) : Bool :=
  let n := c.toNat
  (9 ≤ n && n ≤ 13) || n == 0x20 || n == 0x85 || n == 0x200E || n == 0x200F || n == 0x2028 ||
    n == 0x2029

/-- What kind of blank a place in the text is in. -/
inductive Gap where
  | space
  | line
  /-- A block comment inside `outer` others. -/
  | block (outer : Nat)
deriving DecidableEq, Repr

/-- Goes on to the first character that is no blank. There is no answer if a block comment is not
closed or a slash begins no comment. -/
def skipGap : Gap → List Char → Option (List Char)
  | .space, '/' :: '/' :: cs => skipGap .line cs
  | .space, '/' :: '*' :: cs => skipGap (.block 0) cs
  | .space, '/' :: _ => none
  | .space, c :: cs => if isBlankChar c then skipGap .space cs else some (c :: cs)
  | .line, '\n' :: cs => skipGap .space cs
  | .line, _ :: cs => skipGap .line cs
  | .block outer, '/' :: '*' :: cs => skipGap (.block (outer + 1)) cs
  | .block 0, '*' :: '/' :: cs => skipGap .space cs
  | .block (outer + 1), '*' :: '/' :: cs => skipGap (.block outer) cs
  | .block outer, _ :: cs => skipGap (.block outer) cs
  | .block _, [] => none
  | _, [] => some []

/-- What follows the blanks at the front of a text. -/
def skipBlank (cs : List Char) : Option (List Char) :=
  skipGap .space cs

/-- Skips blanks, then one given character if it stands there; says whether it did. A comma that
was found is followed by blanks of its own. -/
def skipComma (cs : List Char) : Option (Bool × List Char) := do
  match ← skipBlank cs with
  | ',' :: rest => pure (true, ← skipBlank rest)
  | rest => pure (false, rest)

end TaskDesk.Ron
