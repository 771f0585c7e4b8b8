import TaskDesk.Text.Combining
import TaskDesk.Text.Composite

/-!
# The canonical form of texts

Texts that differ only in composites and in the order of marks say the same. In the canonical
form, which Unicode calls NFC, marks stand in the order of their classes and every composite
that can be formed is formed.

## Main definitions

* `Text.decompose`: every composite taken apart.
* `Text.order`: marks in the order of their classes.
* `Text.compose`: composites formed from left to right.
* `Text.canonical`: the three of them in a row.
-/

namespace TaskDesk.Text

/-- Takes a character apart; `depth` bounds how often its first part is taken apart again. -/
def decomposeChar : (depth : Nat) → Char → List Char
  | 0, c => [c]
  | depth + 1, c =>
    match parts? c with
    | some (first, second) => decomposeChar depth first ++ [second]
    | none => [c]

/-- No composite has more characters in it than one and this number. -/
def compositeDepth : Nat := 4

def decompose (text : List Char) : List Char :=
  text.flatMap (decomposeChar compositeDepth)

/-- Puts a character in front of ordered ones; a mark goes behind the marks of lower classes. -/
def insertMark (c : Char) : List Char → List Char
  | [] => [c]
  | d :: ds =>
    if combiningClass d ≠ 0 ∧ combiningClass d < combiningClass c then d :: insertMark c ds
    else c :: d :: ds

/-- Brings the marks after each character in the order of their classes. -/
def order (text : List Char) : List Char :=
  text.foldr insertMark []

/-- A mark reaches the character before it if there are only marks of lower classes between. The
marks come in reverse. -/
def reaches (marks : List Char) (c : Char) : Bool :=
  marks.all fun mark => combiningClass mark < combiningClass c

/-- Forms composites with a character that marks follow; the marks that did not go into it come
in reverse. -/
def composeFrom (base : Char) (marks : List Char) : List Char → List Char
  | [] => base :: marks.reverse
  | c :: cs =>
    match if reaches marks c then composite? base c else none with
    | some composite => composeFrom composite marks cs
    | none =>
      if combiningClass c = 0 then base :: marks.reverse ++ composeFrom c [] cs
      else composeFrom base (c :: marks) cs

/-- Forms all composites, from left to right. -/
def compose : List Char → List Char
  | [] => []
  | c :: cs => if combiningClass c = 0 then composeFrom c [] cs else c :: compose cs

def canonical (text : List Char) : List Char :=
  compose (order (decompose text))

end TaskDesk.Text
