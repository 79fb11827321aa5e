import PageAudit.Markup.Expression
import PageAudit.Web.Host

/-! The origin of a web address: its scheme, its host, and the number of the service there
unless that is the usual one.
-/

namespace PageAudit.Web

/-- The schemes of addresses that a page loads from, with the numbers of their usual services. -/
def webSchemes : List (Text × Nat) :=
  [("http", 80), ("https", 443)]

/-- Controls and spaces at the ends of an address are dropped, and so are tabs and line ends
anywhere.
-/
def clean (address : Text) : Text :=
  let isOuter := fun (char : Char) => decide (char.toNat ≤ 0x20)
  let inner := ((address.dropWhile isOuter).reverse.dropWhile isOuter).reverse
  inner.filter (fun char => char != '\t' && char != '\n' && char != '\r')

/-- Slashes of both kinds separate the parts of a web address. -/
def isSlash (char : Char) : Bool :=
  char == '/' || char == '\\'

/-- The part of an address that names the user, the host and the service. -/
def authority (address : Text) : Text :=
  (address.dropWhile isSlash).takeWhile
    (fun char => !(isSlash char || char == '?' || char == '#'))

/-- An authority without the user, who stands before the last `@`. -/
def withoutUser (authority : Text) : Text :=
  (authority.reverse.takeWhile (· != '@')).reverse

/-- (spanHost inside text) splits an authority before the colon of its service. Colons within
brackets belong to the host.
-/
def spanHost : Bool → Text → Text × Text
  | _, [] => ([], [])
  | inside, char :: rest =>
      if char = ':' ∧ ¬ inside then ([], char :: rest)
      else
        let inside := if char = '[' then true else if char = ']' then false else inside
        let (host, service) := spanHost inside rest
        (char :: host, service)

/-- The number of the service behind a colon. The usual one may be left out, and is. -/
def service? (usual : Nat) (text : Text) : Option (Option Nat) :=
  match text with
  | [] | [_] => some none
  | _ :: digits =>
      ((Text.readNat? digits).filter (· < UInt16.size)).map
        (fun number => if number = usual then none else some number)

/-- The scheme of an address in small letters, and what follows its colon. -/
def scheme? (address : Text) : Option (Text × Text) :=
  match address.span (· != ':') with
  | (scheme, _ :: rest) => some (Text.lower scheme, rest)
  | (_, []) => none

/-- The origin of an absolute address with one of the schemes of the web. -/
def originOf? (address : Text) : Option Text :=
  (scheme? (clean address)).bind fun (scheme, rest) =>
    (webSchemes.lookup scheme).bind fun usual =>
      let (host, service) := spanHost false (withoutUser (authority rest))
      (host? host).bind fun host =>
        (service? usual service).map fun number =>
          let suffix :=
            match number with
            | some number => ':' :: Text.ofNat number
            | none => []
          scheme ++ "://".toList ++ host ++ suffix

/-- The origin that a reference of a page leads to. A reference without a scheme but with a
host uses the secure one. A reference that is computed when the page runs has no origin,
nor has one that stays on the site.
-/
def externalOrigin? (reference : Text) : Option Text :=
  let reference := Text.trim reference
  if Expression.isDynamic reference then none
  else if Text.startsWith reference "//" then originOf? ("https:".toList ++ reference)
  else originOf? reference

end PageAudit.Web
