import Storefront.Text.Split
import Storefront.Url.Host
import Storefront.Url.Path

/-! # Reading addresses

Only whole addresses are read, none relative to another one.
-/
namespace Storefront.Url
open Unicode

def isSpecial (scheme : List Char) : Bool :=
  ["http", "https", "ws", "wss", "ftp", "file"].contains (String.ofList scheme)

def defaultPort? (scheme : List Char) : Option Nat :=
  match String.ofList scheme with
  | "http" => some 80
  | "ws" => some 80
  | "https" => some 443
  | "wss" => some 443
  | "ftp" => some 21
  | _ => none

def isSchemeChar (c : Char) : Bool := isAsciiLetter c || isAsciiDigit c || ['+', '-', '.'].contains c

def readScheme (s : List Char) : Option (List Char × List Char) :=
  if s.head?.any isAsciiLetter then
    match s.span isSchemeChar with
    | (scheme, ':' :: rest) => some (scheme.map asciiLower, rest)
    | _ => none
  else none

def endsAuthority (special : Bool) (c : Char) : Bool :=
  c == '/' || c == '?' || c == '#' || (special && c == '\\')

def readTail (special : Bool) (s : List Char) : Option (List Char) × Option (List Char) :=
  let (front, hash) := s.span (· != '#')
  let query := match front with
    | '?' :: q => some (encode (if special then inSpecialQuery else inQuery) q)
    | _ => none
  (query, hash.tail?.map (encode inFragment))

def isPathEnd (c : Char) : Bool := c == '?' || c == '#'

def readRest (scheme : List Char) (authority : Authority) (s : List Char) : Url :=
  let special := isSpecial scheme
  let (path, tail) := s.span (!isPathEnd ·)
  let path := match path with
    | [] => if special then ['/'] else []
    | c :: rest =>
      if c = '/' ∨ (special ∧ c = '\\') then readPath special false rest
      else readPath special false path
  let (query, fragment) := readTail special tail
  ⟨scheme, some authority, path, query, fragment⟩

def readUser (special : Bool) (s : List Char) : Except Fault (List Char × List Char × List Char) :=
  let authority := s.takeWhile (!endsAuthority special ·)
  let rest := s.drop authority.length
  match Text.splitLast ['@'] authority with
  | none => .ok ([], [], s)
  | some ([], host) => if host.isEmpty ∧ !rest.isEmpty then .error .emptyHost else .ok ([], [], host ++ rest)
  | some (info, host) =>
    let (user, password) := info.span (· != ':')
    .ok (encode inUser user, encode inUser (password.drop 1), host ++ rest)

/-- The text of a host: colons in brackets belong to it. -/
def hostText (special : Bool) (inside : Bool) : List Char → List Char
  | [] => []
  | c :: rest =>
    if (c = ':' ∧ !inside) ∨ endsAuthority special c then []
    else c :: hostText special (if c = '[' then true else if c = ']' then false else inside) rest

def readPort (scheme s : List Char) : Except Fault (Option Nat × List Char) :=
  let (digits, rest) := s.span isAsciiDigit
  let n := digits.foldl (fun n c => min 65536 (n * 10 + (c.toNat - 48))) 0
  if 65535 < n then .error .invalidPort
  else if rest.head?.any fun c => !endsAuthority true c then .error .invalidPort
  else .ok (if digits.isEmpty || some n == defaultPort? scheme then none else some n, rest)

def readAuthority (scheme s : List Char) : Except Fault Url := do
  let special := isSpecial scheme
  let (user, password, rest) ← readUser special s
  let text := hostText special false rest
  let rest := rest.drop text.length
  if special ∧ text.isEmpty then .error .emptyHost
  let host ← if special then readHost text else readOpaqueHost text
  let isEmpty := decide (host = .name [])
  if isEmpty ∧ (rest.head? = some ':' ∨ !user.isEmpty ∨ !password.isEmpty) then .error .emptyHost
  let (port, rest) ← match rest with
    | ':' :: digits => readPort scheme digits
    | _ => pure (none, rest)
  return readRest scheme ⟨user, password, host, port⟩ rest

def isSlash (c : Char) : Bool := c == '/' || c == '\\'

/-- The address of a file on a host; a file on this machine has an empty one. -/
def fileUrl (host : Host) (path tail : List Char) : Url :=
  let (query, fragment) := readTail true tail
  ⟨"file".toList, some { host }, path, query, fragment⟩

def filePath (host : Host) (s : List Char) : Url :=
  let (path, tail) := s.span (!isPathEnd ·)
  let drive := (segments true path).head?.any isDriveLetter
  fileUrl (if drive then .name [] else host) (readPath true true path) tail

def readFile (s : List Char) : Except Fault Url :=
  match s with
  | a :: b :: rest =>
    if isSlash a && isSlash b then
      let text := rest.takeWhile (!endsAuthority true ·)
      if isDriveLetter text then .ok (filePath (.name []) rest)
      else do
        let after := rest.drop text.length
        let after := if after.head?.any isSlash then after.drop 1 else after
        if text.isEmpty then return filePath (.name []) after
        let host ← readHost text
        return filePath (if host = .name "localhost".toList then .name [] else host) after
    else if isSlash a then .ok (filePath (.name []) (b :: rest))
    else .ok (filePath (.name []) s)
  | [a] => .ok (filePath (.name []) (if isSlash a then [] else s))
  | [] => .ok (filePath (.name []) [])

/-- Reads an address without an authority. A path that does not begin with a slash is opaque. -/
def readPlain (scheme s : List Char) : Url :=
  let (path, tail) := s.span (!isPathEnd ·)
  let (query, fragment) := readTail false tail
  let path := match path with
    | '/' :: rest => readPath false false rest
    | _ => encode inControls path
  ⟨scheme, none, path, query, fragment⟩

/-- Reads an address. Blanks and control characters around it, and line breaks in it, are dropped. -/
def read (s : List Char) : Except Fault Url :=
  let s := (Text.strip (·.toNat ≤ 32) s).filter fun c => !(c == '\t' || c == '\n' || c == '\r')
  match readScheme s with
  | none => .error .relative
  | some (scheme, rest) =>
    if scheme = "file".toList then readFile rest
    else if isSpecial scheme then readAuthority scheme (rest.dropWhile isSlash)
    else match rest with
      | '/' :: '/' :: rest => readAuthority scheme rest
      | _ => .ok (readPlain scheme rest)

def ofString (s : String) : Except Fault Url := read s.toList

end Storefront.Url
