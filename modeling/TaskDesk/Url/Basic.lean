import TaskDesk.Url.Host

/-!
# URLs

Which texts are URLs, and what their schemes and hosts are. Paths, queries and fragments may have
any characters, so they never decide.

## Main definitions

* `Url`, `Url.parse?`.
-/

namespace TaskDesk

/-- What a URL says about where something is. -/
structure Url where
  scheme : String
  host : Option Host := none
  port : Option Nat := none
deriving DecidableEq, Repr

namespace Url

/-- The schemes of the web, whose URLs always have a host. -/
def webSchemes : List String := ["http", "https", "ws", "wss", "ftp"]

/-- Removes controls and spaces at both ends, and tabs and ends of lines everywhere. -/
def cleaned (text : List Char) : List Char :=
  let outer (c : Char) : Bool := c.toNat ≤ 0x20
  let text := ((text.dropWhile outer).reverse.dropWhile outer).reverse
  text.filter fun c => !(c = '\t' || c = '\n' || c = '\r')

def isSchemeChar (c : Char) : Bool :=
  c.isAlphanum || c = '+' || c = '-' || c = '.'

/-- The scheme in small letters, and what follows its colon. -/
def splitScheme? (text : List Char) : Option (String × List Char) :=
  match text.takeWhile isSchemeChar, text.dropWhile isSchemeChar with
  | first :: more, ':' :: rest =>
    if first.isAlpha then some (Text.lowerAscii (String.ofList (first :: more)), rest) else none
  | _, _ => none

/-- A slash; in URLs of the web and of files a backslash is one too. -/
def isSlash (c : Char) : Bool :=
  c = '/' || c = '\\'

/-- The character ends the part of a URL that names the host. -/
def endsAuthority (web : Bool) (c : Char) : Bool :=
  c = '/' || c = '?' || c = '#' || (web && c = '\\')

/-- The user information and what follows the last at sign; none if there is no such sign. -/
def splitUser (authority : List Char) : Option (List Char) × List Char :=
  let behind := (authority.reverse.takeWhile (· ≠ '@')).reverse
  if behind.length = authority.length then (none, authority)
  else (some (authority.take (authority.length - behind.length - 1)), behind)

/-- The host and what follows it from the first colon outside of brackets on. -/
def splitHost : (bracketed : Bool) → List Char → List Char × List Char
  | _, [] => ([], [])
  | bracketed, c :: cs =>
    if c = ':' ∧ !bracketed then ([], c :: cs)
    else
      let (host, rest) := splitHost (c = '[' || (bracketed && c ≠ ']')) cs
      (c :: host, rest)

/-- The port that follows a host; it may be left out, also after its colon. -/
def port? : List Char → Option (Option Nat)
  | [] => some none
  | _ :: rest =>
    match rest.takeWhile (· ≠ '\\') with
    | [] => some none
    | digits => ((digitsValue? 10 digits).filter (· ≤ 65535)).map some

/-- Reads the part that names the host, up to the path. A user or a port needs a host, and so do
all URLs of the web. -/
def ofAuthority? (scheme : String) (web : Bool) (rest : List Char) : Option Url := do
  let authority := rest.takeWhile (!endsAuthority web ·)
  let (user, behind) := splitUser authority
  let (hostText, portText) := splitHost false behind
  let host ← if web then Host.ofDomain? hostText else Host.ofOpaque? hostText
  let port ← port? portText
  -- A user or a port needs a host.
  let named := user.any fun user => user ≠ [] && user ≠ [':']
  let cutShort := user = some [] && behind.isEmpty && authority.length < rest.length
  if host.isEmpty then
    if named || cutShort || !portText.isEmpty then none else return { scheme }
  else return { scheme, host := some host, port }

/-- The letter of a drive, which is no host. -/
def isDrive : List Char → Bool
  | [letter, mark] => letter.isAlpha && (mark = ':' || mark = '|')
  | _ => false

/-- Reads what follows the scheme of a file. Only after two slashes there may be a host. -/
def ofFile? (rest : List Char) : Option Url :=
  match rest with
  | a :: b :: rest =>
    if isSlash a && isSlash b then
      let text := rest.takeWhile (!endsAuthority true ·)
      if text = [] ∨ isDrive text then some { scheme := "file" }
      else
        (Host.ofDomain? text).map fun host =>
          { scheme := "file", host := if host = .domain "localhost" then none else some host }
    else some { scheme := "file" }
  | _ => some { scheme := "file" }

def parse? (text : String) : Option Url :=
  match splitScheme? (cleaned text.toList) with
  | none => none
  | some (scheme, rest) =>
    if scheme = "file" then ofFile? rest
    else if webSchemes.contains scheme then ofAuthority? scheme true (rest.dropWhile isSlash)
    else
      match ['/', '/'].isPrefixOf? rest with
      | some rest => ofAuthority? scheme false rest
      | none => some { scheme }

end Url

end TaskDesk
