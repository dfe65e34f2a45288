import WorkspaceClient.Url.Basic

/-
  This file defines the reading of URLs from text.

  The text is first freed of blanks. What follows the scheme
  is cut into authority, path, query and fragment, and the
  authority into user, host and port.

  Key definitions include:
    * `Url.clean`
    * `Url.splitScheme?`
    * `Url.Authority`
    * `Url.splitAuthority`
    * `Url.resolveSegments`
    * `Url.parse`
-/

namespace WorkspaceClient
namespace Url

------------------------------------------------------------
-- Cleaning
------------------------------------------------------------

/- Control characters and the space. -/
def isMargin
    (c : Char) : Bool :=
  c.toNat ≤ 0x20

/-
  The text without control characters and spaces at its
  ends, and without tabs and line breaks anywhere.
-/
def clean
    (s : String) : List Char :=
  ((s.toList.dropWhile isMargin).reverse.dropWhile
      isMargin).reverse.filter
    fun c => c != '\t' && c != '\n' && c != '\r'

------------------------------------------------------------
-- Scheme
------------------------------------------------------------

/- The characters of a scheme after its first letter. -/
def isSchemeChar
    (c : Char) : Bool :=
  c.isAlphanum || c == '+' || c == '-' || c == '.'

/- The scheme in lower case, and the text after its colon. -/
def splitScheme?
    (cs : List Char) : Option (String × List Char) :=
  let name := cs.takeWhile isSchemeChar
  match cs.dropWhile isSchemeChar with
  | ':' :: rest =>
      if name.head?.any Char.isAlpha then
        some (String.ofList (name.map Char.toLower), rest)
      else
        none
  | _ => none

------------------------------------------------------------
-- Authority
------------------------------------------------------------

/- The slash, and the backslash that is read as one. -/
def isSlash
    (c : Char) : Bool :=
  c == '/' || c == '\\'

/- The characters that end an authority. -/
def endsAuthority
    (c : Char) : Bool :=
  isSlash c || c == '?' || c == '#'

/- The part of a list after the last element like `x`. -/
def afterLast
    (x : Char)
    (cs : List Char) : List Char :=
  (cs.reverse.takeWhile (· != x)).reverse

/- The user name, password, host and port of an authority. -/
structure Authority where
  username : List Char
  password : List Char
  host : List Char
  port : Option (List Char)
  deriving DecidableEq, Repr

/-
  The host before the first colon that stands outside of
  brackets, and the port after that colon.
-/
def splitPort
    (inBrackets : Bool) :
    List Char → List Char × Option (List Char)
  | [] => ([], none)
  | c :: cs =>
      if c = ':' ∧ !inBrackets then
        ([], some cs)
      else
        let inside :=
          if c = '[' then
            true
          else if c = ']' then
            false
          else
            inBrackets
        let (host, port) := splitPort inside cs
        (c :: host, port)

/- Cut an authority into its parts. -/
def splitAuthority
    (cs : List Char) : Except Fault Authority := do
  let server := afterLast '@' cs
  let (host, port) := splitPort false server
  let user := cs.take (cs.length - server.length - 1)
  if user.isEmpty && cs.head? = some '@' && server.isEmpty then
    throw .emptyHost
  let (username, password) :=
    Text.splitAtFirst (· == ':') user
  return {
    username := encode isUserChar username
    password := encode isUserChar (password.getD [])
    host
    port }

/- Read a port, which may be missing or the default one. -/
def parsePort
    (default : Option Nat) :
    Option (List Char) → Except Fault (Option Nat)
  | none => .ok none
  | some digits =>
      if !digits.all Char.isDigit then
        .error .badPort
      else if 0xFFFF < Text.digitsToNat digits then
        .error .badPort
      else if digits.isEmpty
          || some (Text.digitsToNat digits) = default then
        .ok none
      else
        .ok (some (Text.digitsToNat digits))

------------------------------------------------------------
-- Path
------------------------------------------------------------

/- Whether a segment names the directory it stands in. -/
def isSingleDot
    (segment : List Char) : Bool :=
  let s := String.ofList (segment.map Char.toLower)
  s == "." || s == "%2e"

/- Whether a segment names the directory above. -/
def isDoubleDot
    (segment : List Char) : Bool :=
  let s := String.ofList (segment.map Char.toLower)
  s == ".." || s == "%2e." || s == ".%2e" || s == "%2e%2e"

/-
  The segments of a path without its dot segments. The list
  `done` holds the segments that were passed.
-/
def resolveSegments
    (done : List (List Char)) :
    List (List Char) → List (List Char)
  | [] => done
  | [last] =>
      if isDoubleDot last then
        done.dropLast ++ [[]]
      else if isSingleDot last then
        done ++ [[]]
      else
        done ++ [encode isPathChar last]
  | segment :: rest =>
      if isDoubleDot segment then
        resolveSegments done.dropLast rest
      else if isSingleDot segment then
        resolveSegments done rest
      else
        resolveSegments (done ++ [encode isPathChar segment])
          rest

/- Cut a path at its slashes and backslashes. -/
def splitPath
    (cs : List Char) : List (List Char) :=
  Text.splitOn ['/']
    (cs.map fun c => if c = '\\' then '/' else c)

/- Read a path, which starts with a slash unless empty. -/
def parsePath
    (cs : List Char) : List (List Char) :=
  resolveSegments [] (splitPath cs.tail)

------------------------------------------------------------
-- URLs
------------------------------------------------------------

/- Read what follows the scheme of a web server. -/
def parseWeb
    (scheme : Scheme)
    (cs : List Char) : Except Fault Url := do
  let rest := cs.dropWhile isSlash
  let authority ←
    splitAuthority (rest.takeWhile (!endsAuthority ·))
  let afterAuthority := rest.dropWhile (!endsAuthority ·)
  if authority.host.isEmpty then
    throw .emptyHost
  let host ← parseHost authority.host
  let port ← parsePort (some scheme.defaultPort) authority.port
  let (beforeFragment, fragment) :=
    Text.splitAtFirst (· == '#') afterAuthority
  let (path, query) :=
    Text.splitAtFirst (· == '?') beforeFragment
  return {
    scheme
    username := authority.username
    password := authority.password
    host
    port
    segments := parsePath path
    query := query.map (encode isQueryChar)
    fragment := fragment.map (encode isFragmentChar) }

------------------------------------------------------------
-- Other schemes
------------------------------------------------------------

/- The characters that an opaque host does not contain. -/
def isForbiddenOpaque
    (c : Char) : Bool :=
  c != '%' && "\x00\t\n\r #/:<>?@[\\]^|".toList.contains c

/- The host of a URL of a scheme without a registry. -/
def checkOpaqueHost
    (cs : List Char) : Except Fault Unit :=
  if cs.head? = some '[' then
    match bracketed? cs with
    | some inside => discard (parseIpv6 inside)
    | none => .error .badIpv6
  else if cs.any isForbiddenOpaque then
    .error .badDomainCharacter
  else
    .ok ()

/-
  Why a URL of another scheme is no URL of a web server. Its
  authority may already be malformed.
-/
def foreignFault
    (scheme : String)
    (cs : List Char) : Fault :=
  let checked : Except Fault Unit := do
    if ["ws", "wss", "ftp"].contains scheme then
      discard (parseWeb .http cs)
    else if scheme != "file" && "//".toList.isPrefixOf cs then
      let rest := cs.drop 2
      let cut := fun c => c == '/' || c == '?' || c == '#'
      let authority ←
        splitAuthority (rest.takeWhile (!cut ·))
      checkOpaqueHost authority.host
      if authority.host.isEmpty
          && (authority.port.isSome
            || !authority.username.isEmpty
            || !authority.password.isEmpty) then
        throw .emptyHost
      discard (parsePort none authority.port)
  match checked with
  | .ok () => .foreignScheme
  | .error fault => fault

/- Read the URL of a web server. -/
def parse
    (s : String) : Except Fault Url :=
  match splitScheme? (clean s) with
  | none => .error .noScheme
  | some ("http", rest) => parseWeb .http rest
  | some ("https", rest) => parseWeb .https rest
  | some (scheme, rest) => .error (foreignFault scheme rest)

end Url
end WorkspaceClient
