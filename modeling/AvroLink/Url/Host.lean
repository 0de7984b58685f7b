import AvroLink.Domain.Name
import AvroLink.Url.Address

/-!
# Hosts of a URL

A host is a domain name or an address. A name whose last label is a number is an address of four
bytes, and brackets enclose an address of eight words. Where a scheme is not special, a host is any
text without separators.
-/

namespace AvroLink

/-- Why a text is no URL. -/
inductive UrlError where
  | emptyHost
  | badDomain
  | badPort
  | badAddress4
  | badAddress6
  | badHostCharacter
  | noScheme
  deriving DecidableEq, Repr

def UrlError.message : UrlError → String
  | emptyHost => "empty host"
  | badDomain => "invalid international domain name"
  | badPort => "invalid port number"
  | badAddress4 => "invalid IPv4 address"
  | badAddress6 => "invalid IPv6 address"
  | badHostCharacter => "invalid domain character"
  | noScheme => "relative URL without a base"

namespace Url

def isForbiddenInDomain (c : Char) : Bool :=
  c.toNat ≤ 0x20 || c.toNat = 0x7f ||
    c ∈ ['%', '#', '/', ':', '<', '>', '?', '@', '[', '\\', ']', '^', '|']

def isForbiddenInHost (c : Char) : Bool :=
  c ∈ ['\x00', '\t', '\n', '\r', ' ', '#', '/', ':', '<', '>', '?', '@', '[', '\\', ']', '^', '|']

/-- The domain name that a host denotes. -/
def domain? (cs : List Char) : Option (List Char) := do
  let name ← Domain.ascii? (← String.fromUTF8? ⟨(decode cs).toArray⟩).toList
  if name.any isForbiddenInDomain then none else some name

/-- The address between brackets. -/
def bracketed (cs : List Char) : Except UrlError String :=
  match cs.reverse with
  | ']' :: inner =>
    match address6? inner.reverse with
    | some ws => .ok (address6Text ws)
    | none => .error .badAddress6
  | _ => .error .badAddress6

/-- The written form of the host of a special scheme. -/
def host (cs : List Char) : Except UrlError String :=
  match cs with
  | '[' :: cs => bracketed cs
  | cs =>
    match domain? cs with
    | none => .error .badDomain
    | some [] => .error .emptyHost
    | some name =>
      if endsInNumber name then
        match address4? name with
        | some n => .ok (address4Text n)
        | none => .error .badAddress4
      else .ok (String.ofList name)

/-- The written form of the host of any other scheme. -/
def plainHost (cs : List Char) : Except UrlError String :=
  match cs with
  | '[' :: cs => bracketed cs
  | cs =>
    if cs.any isForbiddenInHost then .error .badHostCharacter
    else .ok (String.ofList (encode isControl cs))

end Url

end AvroLink
