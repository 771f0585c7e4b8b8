import TaskDesk.Text.Canonical
import TaskDesk.Url.Folding
import TaskDesk.Url.Joining
import TaskDesk.Url.Mark
import TaskDesk.Url.Punycode

/-!
# Labels

A name of a host is made of labels with dots between them. A label beyond ASCII may be written
in ASCII, after the mark `xn--`; then its text is behind the mark.

## Main definitions

* `Label.text?`: the text that a label stands for.
* `Label.isWellFormed`: the rules for the text of one label.
* `Label.isOrdered`: the rules for a label beside labels that are written from right to left.
-/

namespace TaskDesk

/-- The ASCII characters that no name has, besides controls and the space. -/
def forbidden : List Char := "%#/:<>?@[\\]^|".toList

/-- No name in its folded form has the character. -/
def isForbidden (c : Char) : Bool :=
  c.toNat ≤ 0x20 || c.toNat = 0x7F || forbidden.contains c

namespace Label

/-- The characters are their own folded form, alone and together. -/
def isFolded (text : List Char) : Bool :=
  text.all (fun c => fold? c = some [c]) && Text.canonical text = text

/-- The longest ASCII form of a text that is read. -/
def writtenLimit : Nat := 2000

/-- The longest label beyond ASCII. -/
def lengthLimit : Nat := 1000

/-- The text behind an ASCII form, without its mark. It has something that ASCII does not have,
and it is in its folded form. -/
def decoded? (written : List Char) : Option (List Char) :=
  if written = [] ∨ written.getLast? = some '-' ∨ written.length > writtenLimit then none
  else
    (Punycode.decode? written).filter fun text =>
      isFolded text && !text.any fun c => isForbidden c || c = '.'

def text? (label : List Char) : Option (List Char) :=
  match "xn--".toList.isPrefixOf? label with
  | none => some label
  | some written => decoded? written

/-! ## Joiners -/

/-- The character asks for the joined shapes of the letters beside it, or for the others. -/
def isJoiner (c : Char) : Bool :=
  c = '\u200C' || c = '\u200D'

/-- Of the characters on one side of a joiner, the next one that is a letter by itself has a
property. -/
def meets (property : Char → Bool) (side : List Char) : Bool :=
  (side.find? (!isBetweenJoined ·)).any property

/-- A joiner stands where it shows: after the mark that takes the vowel from a letter; one that
parts letters also between two letters that would be joined. What is before it comes in
reverse. -/
def isJoinerFit (before : List Char) (joiner : Char) (after : List Char) : Bool :=
  match before with
  | [] => false
  | previous :: _ =>
    Text.combiningClass previous = Text.viramaClass ||
      (joiner = '\u200C' && meets joinsNext before && meets joinsPrevious after)

/-- All joiners stand where they show. What was passed comes in reverse. -/
def joinersFit (before : List Char) : List Char → Bool
  | [] => true
  | c :: cs => (!isJoiner c || isJoinerFit before c cs) && joinersFit (c :: before) cs

/-! ## Whole labels -/

/-- The text of a label does not begin with a mark, its joiners fit, and beyond ASCII it is not
too long. -/
def isWellFormed (text : List Char) : Bool :=
  !text.head?.any isMark && joinersFit [] text &&
    (text.all (·.toNat < 0x80) || text.length ≤ lengthLimit)

/-- Something in the text is written from right to left. -/
def turns (text : List Char) : Bool :=
  text.any fun c => (Direction.of c).turns

/-- A text beside others that are written from right to left: it begins with a letter, all its
letters have one direction, and it ends with a letter or a digit, whatever marks follow. From
right to left it has digits of one kind only. -/
def isOrdered (text : List Char) : Bool :=
  match text.map Direction.of with
  | [] => true
  | first :: rest =>
    let rest := (rest.reverse.dropWhile (· = .mark)).reverse
    match first with
    | .leftToRight =>
      rest.all ([.leftToRight, .digit, .neutral, .mark].contains ·) &&
        rest.getLast?.all ([.leftToRight, .digit].contains ·)
    | .rightToLeft =>
      !rest.contains .leftToRight && !(rest.contains .digit && rest.contains .arabicDigit) &&
        rest.getLast?.all ([.rightToLeft, .digit, .arabicDigit].contains ·)
    | _ => false

end Label

end TaskDesk
