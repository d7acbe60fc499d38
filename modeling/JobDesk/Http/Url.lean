import JobDesk.Http.Host.Basic

/-!
# Urls — absolute addresses of services

An address is a scheme, a host, a port, a path, and perhaps a query and a fragment.  It is read
leniently: blanks around it and breaks within it are passed over, back slashes count as slashes, and
any number of slashes may stand before the host.  It is written with a normal host, without the port
that its scheme implies, with a path whose dots are resolved, and with escapes of all characters
that an address cannot hold.
-/

namespace JobDesk.Http

/-! ## 1. Schemes -/

inductive Scheme where
  | http
  | https
  deriving DecidableEq, Inhabited

namespace Scheme

def name : Scheme → String
  | http => "http"
  | https => "https"

def port : Scheme → Nat
  | http => 80
  | https => 443

def ofName? (name : String) : Option Scheme :=
  if name = "http" then some http else if name = "https" then some https else none

end Scheme

/-! ## 2. Addresses -/

/-- An absolute address.  Its credentials, path, query and fragment are held as they are written. -/
structure Url where
  scheme : Scheme
  /-- What stands before the host, if it cannot be sent apart from the address. -/
  credentials : Option String := none
  host : Host
  port : Nat
  path : String
  query : Option String := none
  fragment : Option String := none
  deriving DecidableEq, Inhabited

namespace Url

def text (url : Url) : String :=
  let credentials := (url.credentials.map (· ++ "@")).getD ""
  let port := if url.port = url.scheme.port then "" else s!":{url.port}"
  let query := (url.query.map ("?" ++ ·)).getD ""
  let fragment := (url.fragment.map ("#" ++ ·)).getD ""
  url.scheme.name ++ "://" ++ credentials ++ url.host.text ++ port ++ url.path ++ query ++ fragment

/-! ## 3. Escapes -/

/-- A character that no part of an address holds: a control character, or one of some others. -/
def isOutside (others : String) (c : Char) : Bool :=
  c < ' ' || c == '\x7f' || others.toList.contains c

def writeFragment (text : List Char) : String :=
  String.ofList (escape (isOutside " \"<>`") text)

def writeQuery (text : List Char) : String :=
  String.ofList (escape (isOutside " \"#<>\x27") text)

def writePart (text : List Char) : List Char := escape (isOutside " \"#<>?`\x7b\x7d") text

def writeCredential (text : List Char) : String :=
  String.ofList (escape (isOutside " \"#<>?`\x7b\x7d/:;=@[\\]^|") text)

/-! ## 4. Paths -/

def isSlash (c : Char) : Bool := c == '/' || c == '\\'

def dots : List Char → List Char
  | '%' :: '2' :: 'e' :: rest | '%' :: '2' :: 'E' :: rest => '.' :: dots rest
  | c :: rest => c :: dots rest
  | [] => []

/-- Whether a part of a path names a drive: a letter and a colon or bar. -/
def isDrive : List Char → Bool
  | [letter, mark] => letter.isAlpha && (mark == ':' || mark == '|')
  | _ => false

def leave (made : List (List Char)) : List (List Char) :=
  if made.getLast?.any isDrive then made else made.dropLast

/-- The parts of a path with dots resolved; `made` holds those before. -/
def resolve (made : List (List Char)) : List (List Char) → List (List Char)
  | [] => made
  | part :: rest =>
    -- Behind dots at its end a path goes on with a slash.
    let closing := if rest.isEmpty then [[]] else []
    if dots part = ['.', '.'] then resolve (leave made ++ closing) rest
    else if dots part = ['.'] then resolve (made ++ closing) rest
    else resolve (made ++ [part]) rest

def writePath (text : List Char) : String :=
  let parts := ((text.map fun c => if isSlash c then '/' else c).splitOn '/').map writePart
  String.ofList ('/' :: ['/'].intercalate (resolve [] parts))

/-! ## 5. Authorities -/

def splitCredentials (authority : List Char) : Option (List Char) × List Char :=
  match authority.reverse.span (· != '@') with
  | (_, []) => (none, authority)
  | (host, _ :: credentials) => (some credentials.reverse, host.reverse)

def isPlain (text : List Char) : Bool :=
  (Bytes.toText? (unescapeAll (Bytes.ofText (String.ofList text)).toList).toArray).isSome

/-- Credentials as they are written, unless they can be sent apart from the address, for which a
name that is no text or a missing name without a password that is text is not fit. -/
def writeCredentials (text : List Char) : Option String :=
  let (name, rest) := text.span (· != ':')
  let password := rest.drop 1
  let isSent := isPlain name && (!name.isEmpty || isPlain password)
  if isSent then none
  else
    let password := if password.isEmpty then "" else ":" ++ writeCredential password
    some (writeCredential name ++ password)

/-- The host at the beginning of a text; within brackets colons belong to it. -/
def hostPart : (isBracketed : Bool) → List Char → List Char
  | _, [] => []
  | isBracketed, c :: rest =>
    if c = ':' ∧ !isBracketed then []
    else c :: hostPart (if c = '[' then true else if c = ']' then false else isBracketed) rest

/-- The port that stands behind a host; without digits it is the one that the scheme implies. -/
def readPort? (scheme : Scheme) : List Char → Option Nat
  | [] | [':'] => some scheme.port
  | _ :: digits => (Text.readDigits? digits).filter (· < 65536)

def isUnsendable (c : Char) : Bool := "\"`\x7b\x7d".toList.contains c

/-! ## 6. Reading -/

def clean (text : List Char) : List Char :=
  let isBlank (c : Char) : Bool := c ≤ ' '
  let trimmed := ((text.dropWhile isBlank).reverse.dropWhile isBlank).reverse
  trimmed.filter fun c => c != '\t' && c != '\n' && c != '\r'

def longest : Nat := 65534

def read? (text : String) : Option Url := do
  let (scheme, rest) := (clean text.toList).span (· != ':')
  let scheme ← Scheme.ofName? (String.ofList (scheme.map Char.toLower))
  if rest.isEmpty then none
  let (authority, rest) :=
    ((rest.drop 1).dropWhile isSlash).span fun c => !isSlash c && c != '?' && c != '#'
  let (rest, fragment) := rest.span (· != '#')
  let (path, query) := rest.span (· != '?')
  let (credentials, authority) := splitCredentials authority
  let hostText := hostPart false authority
  let host ← Host.read? hostText
  let port ← readPort? scheme (authority.drop hostText.length)
  let url : Url :=
    { scheme := scheme
      credentials := credentials.bind writeCredentials
      host := host
      port := port
      path := writePath (path.drop 1)
      query := if query.isEmpty then none else some (writeQuery (query.drop 1))
      fragment := if fragment.isEmpty then none else some (writeFragment (fragment.drop 1)) }
  if host.text.toList.any isUnsendable ∨ longest < url.text.utf8ByteSize then none else return url

end Url

end JobDesk.Http
