import PageAudit.Web.Address
import PageAudit.Web.DomainName

/-! Hosts of web addresses, in the form in which they are compared. -/

namespace PageAudit.Web

/-- Bytes with each percent sign and two digits behind it replaced by the byte they stand for. -/
def percentDecode : List UInt8 → List UInt8
  | 0x25 :: first :: second :: rest =>
      match Text.hexByte? (Char.ofNat first.toNat) (Char.ofNat second.toNat) with
      | some byte => byte :: percentDecode rest
      | none => 0x25 :: percentDecode (first :: second :: rest)
  | byte :: rest => byte :: percentDecode rest
  | [] => []

/-- A host in brackets is an address in groups. -/
def bracketed? (text : Text) : Option Text :=
  if text.getLast? = some ']' then (Ipv6.ofText? text.dropLast).map Ipv6.write else none

/-- A host by name, or by an address in decimal bytes. -/
def named? (text : Text) : Option Text :=
  (Text.ofBytes? (percentDecode (Text.bytes text))).bind fun name =>
    (DomainName.toAscii? name).bind fun name =>
      if name.isEmpty then none
      else if Ipv4.endsInNumber name then (Ipv4.ofName? name).map Ipv4.write
      else some name

/-- The form in which a host is compared, when it is one. -/
def host? : Text → Option Text
  | '[' :: text => bracketed? text
  | text => named? text

end PageAudit.Web
