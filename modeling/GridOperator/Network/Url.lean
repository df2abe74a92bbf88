import GridOperator.Network.Host

/-!
# Addresses of requests

Which texts can be asked for over HTTP. Readers of addresses are lenient: blanks
around them do not count, and neither does the number of slashes before the host.
-/

namespace GridOperator.Url

open Text

/-- The text without control characters and blanks around it and without tabs and breaks inside. -/
def clean (cs : List Char) : List Char :=
  let outer := fun c : Char => c.toNat ≤ 0x20
  (((cs.dropWhile outer).reverse.dropWhile outer).reverse).filter fun c =>
    c ≠ '\t' ∧ c ≠ '\n' ∧ c ≠ '\r'

/-- What follows the scheme and its colon, if the scheme is one of HTTP. -/
def afterScheme (cs : List Char) : Option (List Char) :=
  (splitOnce ':' cs).bind fun (scheme, rest) =>
    let scheme := scheme.map Char.toLower
    if scheme = ['h', 't', 't', 'p'] ∨ scheme = ['h', 't', 't', 'p', 's'] then some rest else none

def isSlash (c : Char) : Bool := c == '/' || c == '\\'

/-- The host with its port and whoever asks, up to the path. -/
def authority (cs : List Char) : List Char :=
  (cs.dropWhile isSlash).takeWhile fun c => !(isSlash c || c == '?' || c == '#')

/-- The host and its port, after the last at-sign. -/
def hostAndPort (cs : List Char) : List Char :=
  match splitOnceLast '@' cs with
  | some (_, rest) => rest
  | none => cs

/-- The host, which may have colons between brackets, and what follows it. -/
def splitPort (cs : List Char) : List Char × List Char :=
  go false cs
where
  go (inside : Bool) : List Char → List Char × List Char
    | [] => ([], [])
    | c :: cs =>
      if c = ':' ∧ !inside then ([], c :: cs)
      else
        let inside := if c = '[' then true else if c = ']' then false else inside
        let (host, port) := go inside cs
        (c :: host, port)

/-- A colon and a number below 65536, or both left out, or the number alone. -/
def isPort : List Char → Bool
  | [] => true
  | _ :: ds => ds.all Char.isDigit && decimal ds < 65536

/-- Whether a request can go to an address. -/
def isHttp (url : String) : Bool :=
  match afterScheme (clean url.toList) with
  | some rest =>
    let (host, port) := splitPort (hostAndPort (authority rest))
    Host.isValid host && isPort port
  | none => false

end GridOperator.Url
