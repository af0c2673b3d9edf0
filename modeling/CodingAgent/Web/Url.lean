import CodingAgent.Web.Idna
import CodingAgent.Text.Case
import CodingAgent.Text.Numeral
import CodingAgent.Text.Utf8
import CodingAgent.Json.Display

/-!
# Request addresses

`Url.parse` reads the text of an address into its parts, the way RFC 3986 splits it
(`scheme:` `//authority` path `?query` `#fragment`, the authority into `userinfo@`, host and
`:port`) and puts every part in normal form:

* the scheme in lower case;
* the host in lower case, ASCII hosts percent-encoded, IPv4 and bracketed IPv6 literals
  checked, other hosts written in ASCII as internationalized domain names (`idnaEncode`);
* the port as a number, dropped when it is the default of the scheme;
* `.` and `..` segments of the path removed when there is a scheme or an authority;
* the userinfo, path, query and fragment percent-encoded, each with its own set of
  characters that stay as they are (the sets of the WHATWG URL standard); `%` with two hex
  digits is kept as an escape already made.

An address with a scheme and a host is absolute. A relative address is taken from the root
of an empty base (`Url.againstRoot`): its path (with the query) starts at `/`, and its
fragment is lost.

Text that cannot be an address fails with `InvalidURL` and a message naming the fault;
a lone surrogate that must be percent-encoded cannot be written in UTF-8 and fails with the
encoder's error.
-/

namespace CodingAgent.Web

open CodingAgent.Text

/-- The parts of an address in normal form. -/
structure Url where
  scheme : String := ""
  userinfo : String := ""
  host : String := ""
  port : Option Int := none
  path : String := ""
  query : Option String := none
  fragment : Option String := none

/-- Why text is not an address. -/
inductive UrlError where
  /-- The text breaks a rule of addresses. -/
  | invalid (message : String)
  /-- A lone surrogate had to be percent-encoded. -/
  | unencodable (code : Nat)

/-- The class of the error, as errors are reported. -/
def UrlError.className : UrlError → String
  | .invalid _ => "InvalidURL"
  | .unencodable _ => "UnicodeEncodeError"

/-- The message of the error. -/
def UrlError.message : UrlError → String
  | .invalid m => m
  | .unencodable code =>
    "'utf-8' codec can't encode character '\\u" ++ CodingAgent.Json.hexPadded 4 code ++
      "' in position 0: surrogates not allowed"

/-- The longest address text. -/
def maxUrlLength : Nat := 65536

/-- Whether a code point is an unreserved character: ASCII letters, digits, `-._~`. -/
def isUnreserved (n : Nat) : Bool :=
  (0x41 ≤ n && n ≤ 0x5A) || (0x61 ≤ n && n ≤ 0x7A) || (0x30 ≤ n && n ≤ 0x39) ||
    n == 0x2D || n == 0x2E || n == 0x5F || n == 0x7E

/-- Whether a code point is printable ASCII, space included, and not among `excluded`. -/
def printableExcept (excluded : List Nat) (n : Nat) : Bool :=
  0x20 ≤ n && n ≤ 0x7E && !excluded.contains n

/-- The characters a path keeps. -/
def pathSafe : Nat → Bool :=
  printableExcept [0x20, 0x22, 0x23, 0x3C, 0x3E, 0x3F, 0x60, 0x7B, 0x7D]

/-- The characters a query keeps. -/
def querySafe : Nat → Bool :=
  printableExcept [0x20, 0x22, 0x23, 0x3C, 0x3E]

/-- The characters a fragment keeps. -/
def fragmentSafe : Nat → Bool :=
  printableExcept [0x20, 0x22, 0x3C, 0x3E, 0x60]

/-- The characters a userinfo keeps. -/
def userinfoSafe : Nat → Bool :=
  printableExcept [0x20, 0x22, 0x23, 0x3C, 0x3E, 0x3F, 0x60, 0x7B, 0x7D, 0x2F, 0x3B, 0x3D,
    0x40, 0x5B, 0x5C, 0x5D, 0x5E, 0x7C]

/-- The characters an ASCII host keeps: the sub-delimiters and ``"`{}%|\``. -/
def hostSafe (n : Nat) : Bool :=
  "!$&'()*+,;=\"`\x7b\x7d%|\\".toList.contains (Char.ofNat n)

/-- Two upper-case hex digits of a byte. -/
def upperHex2 (b : Nat) : String :=
  let digit (d : Nat) : Char := if d < 10 then Char.ofNat (0x30 + d) else Char.ofNat (0x37 + d)
  String.ofList [digit (b / 16), digit (b % 16)]

/-- Whether a character is a hex digit. -/
def isHexDigit (c : Char) : Bool :=
  ('0' ≤ c && c ≤ '9') || ('a' ≤ c && c ≤ 'f') || ('A' ≤ c && c ≤ 'F')

/-- Percent-encode code points: those unreserved or `safe` stay, an escape `%` with two hex
digits stays, every other one becomes the escapes of its UTF-8 bytes. -/
def quoteCodes (safe : Nat → Bool) : List Nat → Except UrlError String
  | [] => .ok ""
  | 0x25 :: a :: b :: rest =>
    if isHexDigit (Char.ofNat a) && isHexDigit (Char.ofNat b) then do
      let more ← quoteCodes safe rest
      pure (String.ofList ['%', Char.ofNat a, Char.ofNat b] ++ more)
    else do
      let more ← quoteCodes safe (a :: b :: rest)
      pure ((if safe 0x25 then "%" else "%25") ++ more)
  | n :: rest => do
    let here ← if isUnreserved n || safe n then pure (String.ofList [Char.ofNat n])
      else if isSurrogateCode n then throw (.unencodable n)
      else pure (String.join ((codeBytes n).map (fun b => "%" ++ upperHex2 b.toNat)))
    let more ← quoteCodes safe rest
    pure (here ++ more)

/-- Percent-encode a text (`quoteCodes`). -/
def quote (safe : Nat → Bool) (s : String) : Except UrlError String :=
  quoteCodes safe (codePoints s.toList)

/-- Whether a character may start a scheme or follow its first character. -/
def isSchemeChar (first : Bool) (c : Char) : Bool :=
  ('a' ≤ c && c ≤ 'z') || ('A' ≤ c && c ≤ 'Z') ||
    (!first && (('0' ≤ c && c ≤ '9') || c == '+' || c == '.' || c == '-'))

/-- The text as it is split: scheme (when a `:` ends a scheme at the start, or stands
first), authority (after `//`), path, query and fragment. -/
structure Pieces where
  scheme : String
  authority : String
  path : String
  query : Option String
  fragment : Option String

/-- Split the text of an address. -/
def split (cs : List Char) : Pieces :=
  let (scheme, rest) : String × List Char := match cs with
    | ':' :: more => ("", more)
    | c :: more =>
      let run := more.takeWhile (isSchemeChar false)
      let after := more.dropWhile (isSchemeChar false)
      if isSchemeChar true c && after.head? == some ':' then (String.ofList (c :: run), after.tail)
      else ("", cs)
    | [] => ("", [])
  let (authority, rest) : String × List Char := match rest with
    | '/' :: '/' :: more =>
      let stop (c : Char) : Bool := c == '/' || c == '?' || c == '#'
      (String.ofList (more.takeWhile (fun c => !stop c)), more.dropWhile (fun c => !stop c))
    | _ => ("", rest)
  let path := rest.takeWhile (fun c => c != '?' && c != '#')
  let rest := rest.dropWhile (fun c => c != '?' && c != '#')
  let (query, rest) : Option String × List Char := match rest with
    | '?' :: more => (some (String.ofList (more.takeWhile (· != '#'))), more.dropWhile (· != '#'))
    | _ => (none, rest)
  let fragment := match rest with
    | '#' :: more => some (String.ofList more)
    | _ => none
  { scheme, authority, path := String.ofList path, query, fragment }

/-- The authority split into userinfo (up to the last `@`), host (a bracketed literal up to
the last `]`, or up to the first `:`) and port (what follows, after an optional `:`). -/
def splitAuthority (auth : List Char) : String × String × String :=
  let (userinfo, hostPort) : String × List Char :=
    if auth.contains '@' then
      let before := (auth.reverse.dropWhile (· != '@')).reverse
      (String.ofList before.dropLast, auth.drop before.length)
    else ("", auth)
  let (host, rest) : List Char × List Char :=
    if hostPort.head? == some '[' && hostPort.contains ']' then
      let upto := (hostPort.reverse.dropWhile (· != ']')).reverse
      (upto, hostPort.drop upto.length)
    else (hostPort.takeWhile (fun c => c != ':' && c != '@'),
      hostPort.dropWhile (fun c => c != ':' && c != '@'))
  let port := match rest with
    | ':' :: more => more
    | more => more
  (userinfo, String.ofList host, String.ofList port)

/-- Whether every character is an ASCII digit and there is one at least. -/
def allAsciiDigits (cs : List Char) : Bool :=
  !cs.isEmpty && cs.all (fun c => '0' ≤ c && c ≤ '9')

/-- Whether the text has the shape of an IPv4 address: four runs of ASCII digits separated
by dots. -/
def dottedShape (s : String) : Bool :=
  let parts := s.splitOn "."
  parts.length == 4 && parts.all (fun p => allAsciiDigits p.toList)

/-- Whether the text is an IPv4 address in dotted decimal: four parts of one to three
digits, each at most 255, without leading zeros. -/
def isIPv4 (s : String) : Bool :=
  let parts := s.splitOn "."
  parts.length == 4 && parts.all (fun p =>
    let cs := p.toList
    allAsciiDigits cs && cs.length ≤ 3 && !(cs.length > 1 && cs.head? == some '0') &&
      p.toNat! ≤ 255)

/-- Whether the text is one group of an IPv6 address: one to four hex digits. -/
def isHextet (s : String) : Bool :=
  !s.isEmpty && s.length ≤ 4 && s.toList.all isHexDigit

/-- Whether the text is an IPv6 address: eight groups, or fewer with one `::` standing for
the missing ones, the last two groups possibly written as an IPv4 address, and a zone after
`%`. -/
def isIPv6 (s : String) : Bool :=
  let (addr, zoneOk) := match s.splitOn "%" with
    | [a] => (a, true)
    | [a, zone] => (a, !zone.isEmpty)
    | _ => (s, false)
  if !zoneOk || s.toList.contains '/' || addr.isEmpty then false
  else
    let parts := addr.splitOn ":"
    if parts.length < 3 then false
    else
      let last := parts.getLastD ""
      let (parts, tailOk) :=
        if last.toList.contains '.' then
          if isIPv4 last then (parts.dropLast ++ ["0", "0"], true) else (parts, false)
        else (parts, true)
      if !tailOk || parts.length > 9 then false
      else
        let inner := (parts.drop 1).dropLast
        let empties := inner.zipIdx.filter (fun (p, _) => p.isEmpty)
        match empties with
        | [] =>
          parts.length == 8 && parts.all isHextet
        | [(_, j)] =>
          let skip := j + 1
          let hi := if (parts.headD "").isEmpty then skip - 1 else skip
          let lo := if last.isEmpty then parts.length - skip - 2 else parts.length - skip - 1
          let hiOk := !(parts.headD "").isEmpty || hi == 0
          let loOk := !last.isEmpty || lo == 0
          hiOk && loOk && hi + lo < 8 &&
            (parts.take hi).all isHextet && (parts.drop (parts.length - lo)).all isHextet
        | _ => false

/-- The normal form of a host: IPv4 and bracketed IPv6 literals checked (an IPv6 literal
loses its brackets), ASCII hosts in lower case and percent-encoded, other hosts in lower case
and in ASCII as internationalized domain names; a host that cannot be written so is
invalid. -/
def encodeHost (host : String) : Except UrlError String :=
  let cs := host.toList
  if host.isEmpty then .ok ""
  else if dottedShape host then
    if isIPv4 host then .ok host
    else .error (.invalid ("Invalid IPv4 address: " ++ CodingAgent.Json.quoted host))
  else if cs.head? == some '[' && cs.getLast? == some ']' then
    let inner := String.ofList (cs.drop 1).dropLast
    if isIPv6 inner then .ok inner
    else .error (.invalid ("Invalid IPv6 address: " ++ CodingAgent.Json.quoted host))
  else if (codePoints cs).all (· < 0x80) then
    quote hostSafe (lower host)
  else
    match idnaEncode (codePoints (lower host).toList) with
    | .ok h => .ok h
    | .error _ => .error (.invalid ("Invalid IDNA hostname: " ++ CodingAgent.Json.quoted host))

/-- The default port of a scheme, as it was written. -/
def defaultPort (scheme : String) : Option Int :=
  match scheme with
  | "ftp" => some 21
  | "http" => some 80
  | "https" => some 443
  | "ws" => some 80
  | "wss" => some 443
  | _ => none

/-- The port as a number, none when empty or the default of the scheme; it is read as an
integer numeral (`Text.readInt?`). -/
def normalizePort (port scheme : String) : Except UrlError (Option Int) :=
  if port.isEmpty then .ok none
  else
    let fits : Bool := match leadingDigitCount? port with
      | some n => decide (n ≤ 4300)
      | none => true
    match readInt? port with
    | some n => if fits then .ok (if defaultPort scheme == some n then none else some n)
      else .error (.invalid ("Invalid port: " ++ CodingAgent.Json.quoted port))
    | none => .error (.invalid ("Invalid port: " ++ CodingAgent.Json.quoted port))

/-- The path without its `.` segments and with each `..` segment taking away the segment
before it (never the empty one at the start). -/
def normalizePath (path : String) : String :=
  let parts := path.splitOn "/"
  if !path.toList.contains '.' || !(parts.contains "." || parts.contains "..") then path
  else
    let out := parts.foldl (fun out part =>
      if part == "." then out
      else if part == ".." then (if !out.isEmpty && out != [""] then out.dropLast else out)
      else out ++ [part]) []
    "/".intercalate out

/-- The first ASCII character that does not print (a control or delete), with its place in
code points. -/
def firstControl? (cs : List Char) : Option (Char × Nat) :=
  ((codePoints cs).zipIdx).findSome? (fun (n, i) =>
    if n < 0x20 || n == 0x7F then some (Char.ofNat n, i) else none)

/-- Parse and normalize the text of an address. -/
def Url.parse (text : String) : Except UrlError Url := do
  let cs := text.toList
  if (codePoints cs).length > maxUrlLength then throw (.invalid "URL too long")
  if let some (c, i) := firstControl? cs then
    throw (.invalid ("Invalid non-printable ASCII character in URL, " ++
      CodingAgent.Json.quoted c.toString ++ " at position " ++ toString i ++ "."))
  let pieces := split cs
  let (userinfo, host, port) := splitAuthority pieces.authority.toList
  let scheme := String.ofList (pieces.scheme.toList.map (fun c =>
    if 'A' ≤ c && c ≤ 'Z' then Char.ofNat (c.toNat + 32) else c))
  let userinfo ← quote userinfoSafe userinfo
  let host ← encodeHost host
  let port ← normalizePort port pieces.scheme
  let hasScheme := !scheme.isEmpty
  let hasAuthority := !userinfo.isEmpty || !host.isEmpty || port.isSome
  let path := pieces.path
  if hasAuthority && !path.isEmpty && !path.startsWith "/" then
    throw (.invalid "For absolute URLs, path must be empty or begin with '/'")
  if !hasScheme && !hasAuthority then
    if path.startsWith "//" then
      throw (.invalid "Relative URLs cannot have a path starting with '//'")
    if path.startsWith ":" then
      throw (.invalid "Relative URLs cannot have a path starting with ':'")
  let path := if hasScheme || hasAuthority then normalizePath path else path
  let path ← quote pathSafe path
  let query ← match pieces.query with
    | some q => some <$> quote querySafe q
    | none => pure none
  let fragment ← match pieces.fragment with
    | some f => some <$> quote fragmentSafe f
    | none => pure none
  return { scheme, userinfo, host, port, path, query, fragment }

namespace Url

/-- The authority as it is written: `userinfo@`, the host (in brackets when it holds a
`:`), `:port`. -/
def authority (u : Url) : String :=
  (if u.userinfo.isEmpty then "" else u.userinfo ++ "@") ++
    (if u.host.toList.contains ':' then "[" ++ u.host ++ "]" else u.host) ++
    (match u.port with
      | some p => ":" ++ toString p
      | none => "")

/-- The text of an address. -/
def text (u : Url) : String :=
  (if u.scheme.isEmpty then "" else u.scheme ++ ":") ++
    (if u.authority.isEmpty then "" else "//" ++ u.authority) ++ u.path ++
    (match u.query with
      | some q => "?" ++ q
      | none => "") ++
    (match u.fragment with
      | some f => "#" ++ f
      | none => "")

/-- Whether the address names a scheme and a host. -/
def isAbsolute (u : Url) : Bool :=
  !u.scheme.isEmpty && !u.host.isEmpty

/-- A relative address taken from the root of an empty base: the path (or `/`) without
its leading slashes, under `/`, with the query; the fragment is lost. -/
def againstRoot (u : Url) : Url :=
  let path := if u.path.isEmpty then "/" else u.path
  { path := "/" ++ String.ofList (path.toList.dropWhile (· == '/')), query := u.query }

/-- The address a request goes to: an absolute address as it is, a relative one taken from
the root. -/
def target (u : Url) : Url :=
  if u.isAbsolute then u else u.againstRoot

/-- Undo percent-encoding: the escapes become bytes, read as UTF-8 with bad places
replaced. -/
def unquote (s : String) : String :=
  let rec bytesOf : List Char → List UInt8
    | '%' :: a :: b :: rest =>
      if isHexDigit a && isHexDigit b then
        let v (c : Char) : Nat := if c ≤ '9' then c.toNat - 0x30
          else if c ≤ 'F' then c.toNat - 0x37 else c.toNat - 0x57
        (v a * 16 + v b).toUInt8 :: bytesOf rest
      else codeBytes '%'.toNat ++ bytesOf (a :: b :: rest)
    | c :: rest => codeBytes c.toNat ++ bytesOf rest
    | [] => []
  decodeReplacing (bytesOf s.toList)

/-- The user name and password of the userinfo, decoded, when either is not empty. -/
def credentials? (u : Url) : Option (String × String) :=
  let parts := u.userinfo.splitOn ":"
  let user := unquote (parts.headD "")
  let password := unquote (":".intercalate (parts.drop 1))
  if user.isEmpty && password.isEmpty then none else some (user, password)

end Url

end CodingAgent.Web
