import SimpleForwarder.Matcher
import SimpleForwarder.Lib.Octets

/-!
Contract: an executable stand-in for the third-party parsers.

Owns: `referenceCrates`: globs, CIDR networks and absolute-form URIs as their
crates document them, so that the model runs on concrete inputs.

No theorem about the program rests on this module; it instantiates the
parameter `Crates`.
-/

namespace SimpleForwarder

open RustText IpText

/-- `*` stands for any characters, `?` for one, any other character for itself. -/
def globMatch : Text → Text → Bool
  | [], host => host.isEmpty
  | '*' :: pattern, host => host.tails.any (globMatch pattern)
  | _ :: _, [] => false
  | char :: pattern, first :: host => (char = '?' || char = first) && globMatch pattern host

def bigEndian (octets : Bytes) : Nat := octets.foldl (fun value octet => value * 256 + octet.toNat) 0

/-- Addresses of one family that agree in the first `size` bits. -/
def sameNetwork (size : Nat) (network address : IpAddr) : Bool :=
  let bits := 8 * network.octets.length
  network.octets.length = address.octets.length &&
    bigEndian network.octets / 2 ^ (bits - size) = bigEndian address.octets / 2 ^ (bits - size)

/-- The size of a network prefix: digits without a sign, no more than the greatest
size has, and within the address length. -/
def parseSize (network : IpAddr) (text : Text) : Option Nat :=
  let bits := 8 * network.octets.length
  if text ≠ [] ∧ text.all Char.isDigit ∧ text.length ≤ (decimal bits).length ∧
      Nat.ofDigitChars 10 text 0 ≤ bits then
    some (Nat.ofDigitChars 10 text 0)
  else none

/-- `address/size`. -/
def parseNetwork (text : Text) : Option (IpAddr → Bool) := do
  let network ← parse (text.takeWhile (· ≠ '/'))
  let size ← parseSize network ((text.dropWhile (· ≠ '/')).drop 1)
  some (sameNetwork size network)

/-- Host and port of an authority; a bracketed host keeps its brackets. -/
def splitAuthority (authority : Text) : Text × Option UInt16 :=
  if authority.head? = some '[' then
    let host := authority.takeWhile (· ≠ ']') ++ [']']
    (host, parseU16 ((authority.drop host.length).drop 1))
  else
    let host := authority.takeWhile (· ≠ ':')
    (host, parseU16 ((authority.drop host.length).drop 1))

/-- `scheme://authority[/path][?query]` for the schemes `http` and `https`. -/
def parseAbsoluteUri (text : Text) : Option Uri :=
  let afterScheme :=
    if "http://".toList.isPrefixOf text then some (text.drop 7)
    else if "https://".toList.isPrefixOf text then some (text.drop 8)
    else none
  afterScheme.bind fun rest =>
    let authority := rest.takeWhile fun char => char ≠ '/' && char ≠ '?'
    let target := rest.drop authority.length
    let path := target.takeWhile (· ≠ '?')
    let query := (target.drop path.length).drop 1
    if authority = [] then none
    else
      let (host, port) := splitAuthority authority
      some {
        host := some host
        portU16 := port
        path := if path = [] then ['/'] else path
        query := if path.length < target.length then some query else none
      }

def referenceCrates : Crates where
  parseIpNet := parseNetwork
  wildMatch := globMatch
  parseUri := parseAbsoluteUri

end SimpleForwarder
