import RequestCredentials.Text.Quoted
import RequestCredentials.Url.Address
/-
  Authorities

  The authority of a URL is the part that names the host, after an at sign if
  it holds one and before a port. Brackets may stand around a host that is a
  long address or an address of a later form, and nowhere else. Code points
  that come to look like a delimiter when the host is normalized may not stand
  in an authority at all.
-/

namespace RequestCredentials.Url

/-- Why an authority is malformed. -/
inductive AuthorityFault where
  | misplacedBracket
  | malformedFutureAddress
  | notAddress (host : Text)
  | bracketedShortAddress
  /-- A code point stands for a delimiter. -/
  | disguisedDelimiter (authority : Text)
  deriving DecidableEq

def AuthorityFault.message : AuthorityFault → Text
  | misplacedBracket => "Invalid IPv6 URL"
  | malformedFutureAddress => "IPvFuture address is invalid"
  | notAddress host => host.quoted ++ " does not appear to be an IPv4 or IPv6 address"
  | bracketedShortAddress => "An IPv4 address cannot be in brackets"
  | disguisedDelimiter authority =>
    "netloc '" ++ authority ++ "' contains invalid characters under NFKC normalization"

/-! ## Brackets -/

/-- An address of a later form: its version in hexadecimal digits after a `v`, a dot, and more. -/
def isFutureAddress (host : Text) : Bool :=
  match Text.cut '.' host with
  | (_ :: version, some address) =>
    version ≠ [] && version.all (·.hexDigit?.isSome) && address ≠ []
  | _ => false

/-- Checks a host that stands in brackets. -/
def checkBracketedHost (host : Text) : Except AuthorityFault Unit :=
  if host.head? = some (CodePoint.ofChar 'v') then
    if isFutureAddress host then .ok () else .error .malformedFutureAddress
  else if isShortAddress host then .error .bracketedShortAddress
  else if isLongAddress host then .ok ()
  else .error (.notAddress host)

/-- The host and port of an authority: what follows its last at sign. -/
def hostAndPort (authority : Text) : Text :=
  ((authority.splitOn '@').getLast?).getD []

/-- Checks the host of an authority that holds brackets; they may only stand around the host. -/
def checkBrackets (authority : Text) : Except AuthorityFault Unit :=
  match Text.cut '[' (hostAndPort authority) with
  | (before, some bracketed) =>
    let (host, port) := Text.cut ']' bracketed
    let port := port.getD []
    if before ≠ [] ∨ (port ≠ [] ∧ port.head? ≠ some (CodePoint.ofChar ':')) then
      .error .misplacedBracket
    else checkBracketedHost host
  | (plain, none) => checkBracketedHost (Text.cut ':' plain).1

/-! ## Disguises -/

/-- The code points outside ASCII whose compatibility form holds a slash, a question mark, a number
sign, an at sign or a colon. -/
def disguises : List Nat :=
  [0x2047, 0x2048, 0x2049, 0x2100, 0x2101, 0x2105, 0x2106, 0x2A74, 0xFE13, 0xFE16, 0xFE55, 0xFE56,
    0xFE5F, 0xFE6B, 0xFF03, 0xFF0F, 0xFF1A, 0xFF1F, 0xFF20]

/-! ## Authorities -/

/-- Checks the authority of a URL. -/
def checkAuthority (authority : Text) : Except AuthorityFault Unit := do
  let opens := authority.contains (CodePoint.ofChar '[')
  let closes := authority.contains (CodePoint.ofChar ']')
  if opens ≠ closes then throw .misplacedBracket
  if opens then checkBrackets authority
  if authority.any fun c => disguises.contains c.val then throw (.disguisedDelimiter authority)

end RequestCredentials.Url
