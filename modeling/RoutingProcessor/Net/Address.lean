import RoutingProcessor.Text.Ascii

namespace RoutingProcessor.Net

open Text

-- What a listener listens on.
inductive Network where
  | tcp
  | unix
deriving DecidableEq

def Network.name : Network → String
  | tcp => "tcp"
  | unix => "unix"

def Network.default : Network := .tcp

structure Ipv4 where
  a : UInt8
  b : UInt8
  c : UInt8
  d : UInt8
deriving DecidableEq

-- Eight groups of sixteen bits.
structure Ipv6 where
  groups : List UInt16
  eight : groups.length = 8 := by rfl
deriving DecidableEq

inductive Ip where
  | v4 (ip : Ipv4)
  | v6 (ip : Ipv6)
deriving DecidableEq

-- A host and a port. The scope is the interface of a link-local IPv6 host, or zero.
inductive SocketAddress where
  | v4 (ip : Ipv4) (port : UInt16)
  | v6 (ip : Ipv6) (port : UInt16) (scope : UInt32)
deriving DecidableEq

namespace Ipv4

def unspecified : Ipv4 := ⟨0, 0, 0, 0⟩

def print (ip : Ipv4) : String :=
  String.intercalate "." ([ip.a, ip.b, ip.c, ip.d].map fun octet => toString octet.toNat)

end Ipv4

namespace Ipv6

-- The start and the length of the first longest run of zero groups.
def longestZeros (groups : List UInt16) : Nat × Nat :=
  let runs := (List.range groups.length).map fun i =>
    (i, ((groups.drop i).takeWhile (· == 0)).length)
  runs.foldl (fun best run => if run.2 > best.2 then run else best) (0, 0)

def colons (groups : List UInt16) : List Char :=
  (List.intersperse [':'] (groups.map fun g => hexDigits g.toNat)).flatten

-- Hexadecimal groups with two colons for the longest run of at least two zeros. An
-- embedded IPv4 host is written with dots.
def print (ip : Ipv6) : String :=
  match ip.groups with
  | [0, 0, 0, 0, 0, 0xFFFF, high, low] =>
    let ip : Ipv4 := ⟨(high >>> 8).toUInt8, high.toUInt8, (low >>> 8).toUInt8, low.toUInt8⟩
    "::ffff:" ++ ip.print
  | groups =>
    let (start, length) := longestZeros groups
    String.ofList <|
      if length < 2 then colons groups
      else colons (groups.take start) ++ [':', ':'] ++ colons (groups.drop (start + length))

end Ipv6

def Ipv6.unspecified : Ipv6 := ⟨List.replicate 8 0, rfl⟩

def Ipv6.loopback : Ipv6 := ⟨List.replicate 7 0 ++ [1], rfl⟩

namespace Ip

def print : Ip → String
  | v4 ip => ip.print
  | v6 ip => ip.print

-- Whether a listener on `a` also takes what is meant for `b`. The unspecified IPv6 host
-- stands for the IPv4 hosts too.
def covers (a b : Ip) : Bool :=
  a = b || a = .v6 .unspecified ||
    match a, b with
    | .v4 a, .v4 _ => a = .unspecified
    | _, _ => false

-- The hosts that every machine has.
def isOwn : Ip → Bool
  | v4 ip => ip.a = 127 || ip = .unspecified
  | v6 ip => ip = .loopback || ip = .unspecified

end Ip

namespace SocketAddress

def host : SocketAddress → Ip
  | v4 ip _ => .v4 ip
  | v6 ip _ _ => .v6 ip

def print : SocketAddress → String
  | v4 ip port => ip.print ++ ":" ++ toString port.toNat
  | v6 ip port scope =>
    "[" ++ ip.print ++ (if scope = 0 then "" else "%" ++ toString scope.toNat) ++ "]:" ++
      toString port.toNat

def port : SocketAddress → UInt16
  | v4 _ port => port
  | v6 _ port _ => port

def withPort (port : UInt16) : SocketAddress → SocketAddress
  | v4 ip _ => v4 ip port
  | v6 ip _ scope => v6 ip port scope

-- Every IPv4 interface of the host.
def everywhere (port : UInt16) : SocketAddress := .v4 .unspecified port

end SocketAddress

end RoutingProcessor.Net
