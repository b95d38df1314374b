import TokenIndex.Host.Label
import TokenIndex.Host.Numeric
import TokenIndex.Percent
import TokenIndex.Text.Lower

namespace TokenIndex.Host

inductive Fault where
  | badIPv4 (host : Text)
  | badIPv6 (host : Text)
  | badName (host : Text)
  deriving DecidableEq, Repr

def Fault.message : Fault → Text
  | badIPv4 host => "Invalid IPv4 address: " ++ host.quoted
  | badIPv6 host => "Invalid IPv6 address: " ++ host.quoted
  | badName host => "Invalid IDNA hostname: " ++ host.quoted

/-- What stands between brackets around the whole of a text. -/
def bracketed? (t : Text) : Option Text :=
  let closing : CodePoint := ']'
  match t with
  | [] => none
  | c :: rest => if c = '[' && rest.getLast? = some closing then some rest.dropLast else none

def isPlain (c : CodePoint) : Bool :=
  Percent.isUnreserved c || c.isOneOf "!$&'()*+,;=" || c.isOneOf "\"`\x7b\x7d%|\\"

/-- The form of a host in a URL, without brackets. -/
def encode (host : Text) : Except Fault Text :=
  if host.isEmpty then .ok []
  else if resemblesIPv4 host then if isIPv4 host then .ok host else .error (.badIPv4 host)
  else
    match bracketed? host with
    | some address => if isIPv6 address then .ok address else .error (.badIPv6 host)
    | none =>
      if isAscii host then .ok ((host.lower.flatMap Utf8.encodeOne).flatMap
        (Percent.encodeByte isPlain))
      else (encodeName host.lower).mapError fun _ => .badName host

end TokenIndex.Host
