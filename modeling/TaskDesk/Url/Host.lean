import TaskDesk.Text.Utf8
import TaskDesk.Url.Ip
import TaskDesk.Url.Label

/-!
# Hosts

The host of a URL is a name or an address made of numbers. Names are read with their
percent-encoded bytes decoded, in the folded form of every character and in the canonical form
of the text.

## Main definitions

* `percentDecode`.
* `Host`, `Host.ofDomain?`: the host of a URL of the web.
* `Host.ofOpaque?`: the host of any other URL.
-/

namespace TaskDesk

/-- Replaces every percent sign that two hexadecimal digits follow, and these, by the byte. -/
def percentDecode : List UInt8 → List UInt8
  | 37 :: a :: b :: rest =>
    match Hex.digitValue? (Char.ofNat a.toNat), Hex.digitValue? (Char.ofNat b.toNat) with
    | some high, some low => UInt8.ofNat (high * 16 + low) :: percentDecode rest
    | _, _ => 37 :: percentDecode (a :: b :: rest)
  | b :: rest => b :: percentDecode rest
  | [] => []

/-- The host of a URL. -/
inductive Host where
  | domain (name : String)
  | ipv4 (address : Nat)
  | ipv6 (pieces : List Nat)
deriving DecidableEq, Repr, Inhabited

namespace Host

/-- The labels of a name can stand beside each other. -/
def areLabels (name : List Char) : Bool :=
  match (name.splitOn '.').mapM Label.text? with
  | none => false
  | some texts =>
    texts.all Label.isWellFormed && (!texts.any Label.turns || texts.all Label.isOrdered)

/-- A name in its one form. -/
def ofName? (text : List Char) : Option Host := do
  let name := Text.canonical (← text.mapM fold?).flatten
  if name = [] ∨ name.any isForbidden ∨ !areLabels name then none
  else if Ipv4.isMeant name then (Ipv4.parse? name).map .ipv4
  else some (.domain (String.ofList name))

/-- An address of version 6, without the bracket in front. -/
def ofBracketed? (rest : List Char) : Option Host :=
  if rest.getLast? = some ']' then (Ipv6.parse? rest.dropLast).map .ipv6 else none

/-- The host of a URL of the web. -/
def ofDomain? : List Char → Option Host
  | '[' :: rest => ofBracketed? rest
  | text =>
    match Utf8.decode? (percentDecode (Utf8.encode (String.ofList text))) with
    | none => none
    | some name => ofName? name.toList

/-- The characters that the host of no URL has. -/
def forbiddenOpaque : List Char := "\x00\t\n\r #/:<>?@[\\]^|".toList

/-- The host of a URL that is not of the web. It may be empty. -/
def ofOpaque? : List Char → Option Host
  | '[' :: rest => ofBracketed? rest
  | text =>
    if text.any forbiddenOpaque.contains then none else some (.domain (String.ofList text))

def isEmpty : Host → Bool
  | domain name => name = ""
  | _ => false

end Host

end TaskDesk
