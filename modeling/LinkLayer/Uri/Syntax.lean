/-
  LinkLayer.Uri.Syntax
  ────────────────────
  **READING A URI.**

  `Uri.parse` reads a text by the rules of the URL standard.  Controls and
  spaces at the ends and tabs and line ends anywhere are ignored.  A scheme
  without rules of its own has an authority after `//`, a rooted path after
  one slash, and an opaque path otherwise; web schemes always have an
  authority, and `file` has a host but no port.
-/
import LinkLayer.Uri.Host
import LinkLayer.Uri.Path

namespace LinkLayer

open LinkLayer.Text

/-! ## §1. The parts of a URI. -/

/-- A URI in its parts.  User name, password, path and query are in their
percent-encoded form. -/
structure Uri where
  scheme : String
  username : List Char
  password : List Char
  host : Option Uri.Host
  port : Option UInt16
  path : List Char
  query : Option (List Char)
  deriving Repr, DecidableEq

namespace Uri

/-- The pairs of the query. -/
def queryPairs (u : Uri) : List (String × String) :=
  match u.query with
  | some q => formPairs q
  | none => []

/-- What the standard says about a scheme. -/
inductive SchemeClass where
  | plain
  | web (defaultPort : Nat)
  | file
  deriving Repr, DecidableEq

/-- The class of a scheme in small letters. -/
def schemeClass (s : String) : SchemeClass :=
  if s = "http" ∨ s = "ws" then .web 80
  else if s = "https" ∨ s = "wss" then .web 443
  else if s = "ftp" then .web 21
  else if s = "file" then .file
  else .plain

/-! ## §2. Cutting the text. -/

/-- The characters that count: without controls and spaces at the ends, and
without tabs and line ends. -/
def significant (s : String) : List Char :=
  (trimEnds s.toList).filter fun c => c ≠ '\t' ∧ c ≠ '\n' ∧ c ≠ '\r'
where
  trimEnds (cs : List Char) : List Char :=
    ((cs.dropWhile (· ≤ ' ')).reverse.dropWhile (· ≤ ' ')).reverse

/-- A character that a scheme may contain after its first letter. -/
def isSchemeChar (c : Char) : Bool :=
  isLetter c || isDigit c || c = '+' || c = '-' || c = '.'

/-- The scheme, in small letters, and what follows its colon. -/
def cutScheme? (cs : List Char) : Option (String × List Char) :=
  match cs.head? with
  | none => none
  | some c =>
      if isLetter c then
        match cs.dropWhile isSchemeChar with
        | ':' :: rest =>
            some (String.ofList ((cs.takeWhile isSchemeChar).map lowerLetter), rest)
        | _ => none
      else none

/-- Whether a character ends the authority. -/
def endsAuthority (web : Bool) (c : Char) : Bool :=
  c = '/' || c = '?' || c = '#' || (web && c = '\\')

/-- What stands before the fragment. -/
def withoutFragment (cs : List Char) : List Char := cs.takeWhile (· ≠ '#')

/-- Path and query of what follows the authority. -/
def pathAndQuery (cs : List Char) : List Char × Option (List Char) :=
  let body := withoutFragment cs
  let path := body.takeWhile (· ≠ '?')
  match body.dropWhile (· ≠ '?') with
  | _ :: query => (path, some (percentEncode querySet query))
  | [] => (path, none)

/-! ## §3. The authority. -/

/-- The user information of an authority and what follows it. -/
structure Userinfo where
  username : List Char
  password : List Char
  isPresent : Bool
  rest : List Char
  deriving Repr, DecidableEq

/-- Split off the user information, which ends at the last `@` of the
authority.  User name and password are split at the first colon. -/
def cutUserinfo (web : Bool) (cs : List Char) : Except SyntaxError Userinfo :=
  let authority := cs.takeWhile fun c => !endsAuthority web c
  match cutLast? '@' authority with
  | none => .ok ⟨[], [], false, cs⟩
  | some (info, _) =>
      let rest := cs.drop (info.length + 1)
      if info = [] ∧ rest.head?.any (endsAuthority web) then .error .emptyHost
      else
        let (user, pass) := (cutFirst? ':' info).getD (info, [])
        .ok ⟨percentEncode userinfoSet user, percentEncode userinfoSet pass,
          user ≠ [] || pass ≠ [], rest⟩

/-- The number of characters of the host: up to a colon outside brackets or
the end of the authority. -/
def hostSpan (web : Bool) : Bool → List Char → Nat
  | _, [] => 0
  | inside, c :: rest =>
      if (c = ':' ∧ !inside) || endsAuthority web c then 0
      else if c = '[' then hostSpan web true rest + 1
      else if c = ']' then hostSpan web false rest + 1
      else hostSpan web inside rest + 1

/-- A port and what follows it: digits up to a slash, backslash, `?`, `#` or
the end.  No digits, or the default of the scheme, mean no port. -/
def cutPort (default : Option Nat) (cs : List Char) :
    Except SyntaxError (Option UInt16 × List Char) :=
  let digits := cs.takeWhile isDigit
  let rest := cs.dropWhile isDigit
  if 65535 < decimalValue digits then .error .invalidPort
  else
    match rest.head? with
    | some c =>
        if c = '/' ∨ c = '\\' ∨ c = '?' ∨ c = '#' then .ok (portOf digits, rest)
        else .error .invalidPort
    | none => .ok (portOf digits, rest)
where
  portOf (digits : List Char) : Option UInt16 :=
    if digits = [] ∨ default = some (decimalValue digits) then none
    else some (UInt16.ofNat (decimalValue digits))

/-- Whether a host has no characters. -/
def Host.isEmpty (h : Host) : Bool := h = .name []

/-- The URI of a scheme with an authority; `cs` starts after the slashes. -/
def parseAuthority (scheme : String) (web : Bool) (defaultPort : Option Nat) (cs : List Char) :
    Except SyntaxError Uri := do
  let info ← cutUserinfo web cs
  let size := hostSpan web false info.rest
  let hostText := info.rest.take size
  let rest := info.rest.drop size
  if web ∧ hostText = [] then throw .emptyHost
  let host ← if web then domainHost hostText else opaqueHost hostText
  let (port, after) ← match rest with
    | ':' :: portText =>
        if host.isEmpty then throw .emptyHost
        cutPort defaultPort portText
    | _ => pure (none, rest)
  if host.isEmpty ∧ info.isPresent then throw .emptyHost
  let (path, query) := pathAndQuery after
  return {
    scheme, username := info.username, password := info.password,
    host := if host.isEmpty then none else some host,
    port, path := normalPath path, query }

/-! ## §4. Whole URIs. -/

/-- The URI of a scheme without rules of its own. -/
def parsePlain (scheme : String) (cs : List Char) : Except SyntaxError Uri :=
  match cs with
  | '/' :: '/' :: rest => parseAuthority scheme false none rest
  | _ =>
      let (path, query) := pathAndQuery cs
      let normal := match path with
        | '/' :: _ => normalPath path
        | _ => percentEncode controlSet path
      .ok ⟨scheme, [], [], none, none, normal, query⟩

/-- The URI of a file: a host only after two slashes, and none where a drive
letter stands. -/
def parseFile (cs : List Char) : Except SyntaxError Uri :=
  let isSlash (c : Char) : Bool := c = '/' || c = '\\'
  match cs with
  | a :: b :: rest =>
      if isSlash a && isSlash b then do
        let hostText := rest.takeWhile fun c => !endsAuthority true c
        let host ←
          if hostText = [] ∨ isDriveLetter hostText then pure none
          else (domainHost hostText).map some
        let (path, query) := pathAndQuery (rest.drop hostText.length)
        return ⟨"file", [], [], host, none, normalPath path, query⟩
      else .ok (localFile cs)
  | _ => .ok (localFile cs)
where
  localFile (cs : List Char) : Uri :=
    let (path, query) := pathAndQuery cs
    ⟨"file", [], [], none, none, normalPath path, query⟩

/-- The URI that a text stands for. -/
def parse (s : String) : Except SyntaxError Uri :=
  match cutScheme? (significant s) with
  | none => .error .noScheme
  | some (scheme, rest) =>
      match schemeClass scheme with
      | .plain => parsePlain scheme rest
      | .web port =>
          parseAuthority scheme true (some port)
            (rest.dropWhile fun c => c = '/' ∨ c = '\\')
      | .file => parseFile rest

end Uri

end LinkLayer
