/-!
# Blank space and ASCII letters in text

White space is the Unicode property `White_Space`, 25 code points. Text is trimmed of it at
both ends, and a text made of nothing else counts as blank. Letters are lower-cased in ASCII
only, so that no locale can change what a status or a kind is called.

## Main definitions

* `isBlankChar`: the property `White_Space`.
* `Text.trim`, `Text.isBlank`, `Text.lowerAscii`.
-/

namespace TaskDesk

/-- The Unicode property `White_Space`. -/
def isBlankChar (c : Char) : Bool :=
  let n := c.toNat
  (9 ≤ n && n ≤ 13) || n == 0x20 || n == 0x85 || n == 0xA0 || n == 0x1680 ||
    (0x2000 ≤ n && n ≤ 0x200A) || n == 0x2028 || n == 0x2029 || n == 0x202F ||
    n == 0x205F || n == 0x3000

namespace Text

def trimStart (cs : List Char) : List Char :=
  cs.dropWhile isBlankChar

def trimEnd (cs : List Char) : List Char :=
  (cs.reverse.dropWhile isBlankChar).reverse

def trim (s : String) : String :=
  String.ofList (trimEnd (trimStart s.toList))

/-- Nothing but blank characters, or nothing at all. -/
def isBlank (s : String) : Bool :=
  s.toList.all isBlankChar

/-- ASCII capitals in lower case; every other character is itself. -/
def lowerAscii (s : String) : String :=
  String.ofList (s.toList.map Char.toLower)

def spaces (n : Nat) : String :=
  String.ofList (List.replicate n ' ')

/-- Fills up with spaces on the right; width counts code points. -/
def padRight (width : Nat) (s : String) : String :=
  s ++ spaces (width - s.length)

/-- Fills up with spaces on the left; width counts code points. -/
def padLeft (width : Nat) (s : String) : String :=
  spaces (width - s.length) ++ s

end Text

end TaskDesk
