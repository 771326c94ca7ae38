import Storefront.Html.Entity
import Storefront.Pattern.Expr

/-! # Flags and escapes in patterns

What a backslash introduces: a character, a set of characters, or a condition on a place.
-/
namespace Storefront.Pattern
open Unicode

structure Flags where
  ignoreCase : Bool := false
  multiLine : Bool := false
  dotAll : Bool := false
  swapGreed : Bool := false
  unicode : Bool := true
  ignoreSpace : Bool := false
  crlf : Bool := false
deriving DecidableEq, Repr

def Flags.set? (f : Flags) (value : Bool) : Char → Option Flags
  | 'i' => some { f with ignoreCase := value }
  | 'm' => some { f with multiLine := value }
  | 's' => some { f with dotAll := value }
  | 'U' => some { f with swapGreed := value }
  | 'u' => some { f with unicode := value }
  | 'x' => some { f with ignoreSpace := value }
  | 'R' => some { f with crlf := value }
  | _ => none

/-- Reads flags up to the `:` or `)` that ends them: the flags, whether there were any, whether a
colon ended them, and what follows. Letters after a `-` are cleared; none may occur twice. -/
def Flags.read (f : Flags) (seen : List Char) : List Char → Option (Flags × Bool × Bool × List Char)
  | [] => none
  | c :: rest =>
    if c = ':' ∨ c = ')' then
      if seen.head? = some '-' then none else some (f, !seen.isEmpty, c == ':', rest)
    else if seen.contains c then none
    else if c = '-' then f.read (c :: seen) rest
    else (f.set? (!seen.contains '-') c).bind fun g => g.read (c :: seen) rest

inductive Escape
  | literal (c : Char)
  | set (s : CharSet)
  | look (l : Look)

/-- With free spacing, blanks and comments up to the end of a line are skipped. -/
def dropSpace (comment : Bool) : List Char → List Char
  | [] => []
  | c :: rest =>
    if comment then dropSpace (c != '\n') rest
    else if c = '#' then dropSpace true rest
    else if isBlank c then dropSpace false rest
    else c :: rest

def Flags.skip (f : Flags) (s : List Char) : List Char :=
  if f.ignoreSpace then dropSpace false s else s

def readHexFixed (f : Flags) : (count : Nat) → (value : Nat) → List Char → Option (Nat × List Char)
  | 0, value, s => some (value, s)
  | _ + 1, _, [] => none
  | count + 1, value, c :: rest =>
    (Html.Entity.hexDigit? c).bind fun d => readHexFixed f count (value * 16 + d) (f.skip rest)

def readHexBraced (f : Flags) (started : Bool) (value : Nat) (fuel : Nat) (s : List Char) :
    Option (Nat × List Char) :=
  match fuel, f.skip s with
  | _, [] => none
  | 0, _ => none
  | fuel + 1, c :: rest =>
    if c.toNat = 0x7d then if started then some (value, rest) else none
    else (Html.Entity.hexDigit? c).bind fun d => readHexBraced f true (value * 16 + d) fuel rest

def validChar? (n : Nat) : Option Char := if n.isValidChar then some (Char.ofNat n) else none

/-- Reads the number of a character after `\x`, `\u` or `\U`. Two plain digits name a byte when the
pattern is not about Unicode, and bytes beyond ASCII are no text. -/
def readHex (f : Flags) (width : Nat) (s : List Char) : Option (Char × List Char) :=
  match f.skip s with
  | [] => none
  | c :: rest =>
    if c.toNat = 0x7b then
      (readHexBraced f false 0 (rest.length + 1) rest).bind fun (n, rest) =>
        (validChar? n).map (·, rest)
    else (readHexFixed f width 0 (c :: rest)).bind fun (n, rest) =>
      if width = 2 ∧ !f.unicode ∧ 128 ≤ n then none else (validChar? n).map (·, rest)

def splitAt? (d s : List Char) : Option (List Char × List Char) := Text.splitFirst d s

def propertyText? (s : List Char) : Option CharSet :=
  match splitAt? ['!', '='] s with
  | some (name, value) => (valuedSet? name value).map .compl
  | none => match splitAt? [':'] s with
    | some (name, value) => valuedSet? name value
    | none => match splitAt? ['='] s with
      | some (name, value) => valuedSet? name value
      | none => namedSet? s

def Flags.foldSet (f : Flags) (s : CharSet) : CharSet :=
  if f.ignoreCase then (if f.unicode then .folded s else .asciiFolded s) else s

def readProperty (f : Flags) (negated : Bool) (s : List Char) : Option (CharSet × List Char) :=
  if !f.unicode then none
  else
    let finish := fun (set : CharSet) rest =>
      let set := f.foldSet set
      (if negated then CharSet.compl set else set, rest)
    match f.skip s with
    | [] => none
    | c :: rest =>
      if c.toNat = 0x7b then
        let name := rest.takeWhile (·.toNat != 0x7d)
        match rest.drop name.length with
        | [] => none
        | _ :: rest =>
          let name := if f.ignoreSpace then name.filter (!isBlank ·) else name
          (propertyText? name).map (finish · rest)
      else if c = '\\' then none
      else (namedSet? [c]).map (finish · rest)

def classSet (f : Flags) : Char → CharSet
  | 'd' => if f.unicode then .property .digit else .ascii .digit
  | 's' => if f.unicode then .property .blank else .ascii .space
  | _ => if f.unicode then .property .word else .ascii .word

/-- Special word bounds have a name in braces. A brace that begins no name is left for a repetition. -/
def readBoundary (ascii : Bool) (s : List Char) : Option (Look × List Char) :=
  match s with
  | c :: rest =>
    let isName := fun c : Char => isAsciiLetter c || c == '-'
    if c.toNat = 0x7b ∧ rest.head?.any isName then
      match rest.drop (rest.takeWhile isName).length with
      | close :: tail =>
        if close.toNat ≠ 0x7d then none
        else match String.ofList (rest.takeWhile isName) with
          | "start" => some (.wordStart ascii, tail)
          | "end" => some (.wordFinish ascii, tail)
          | "start-half" => some (.wordStartHalf ascii, tail)
          | "end-half" => some (.wordFinishHalf ascii, tail)
          | _ => none
      | [] => none
    else some (.wordBoundary ascii, s)
  | [] => some (.wordBoundary ascii, s)

/-- Reads what follows a backslash. Punctuation stands for itself; letters and digits without a
meaning are refused. -/
def readEscape (f : Flags) : List Char → Option (Escape × List Char)
  | [] => none
  | c :: rest =>
    match c with
    | 'x' => (readHex f 2 rest).map fun (c, rest) => (.literal c, rest)
    | 'u' => (readHex f 4 rest).map fun (c, rest) => (.literal c, rest)
    | 'U' => (readHex f 8 rest).map fun (c, rest) => (.literal c, rest)
    | 'p' => (readProperty f false rest).map fun (s, rest) => (.set s, rest)
    | 'P' => (readProperty f true rest).map fun (s, rest) => (.set s, rest)
    | 'd' | 's' | 'w' => some (.set (classSet f c), rest)
    | 'D' | 'S' | 'W' => some (.set (.compl (classSet f (asciiLower c))), rest)
    | 'a' => some (.literal (Char.ofNat 7), rest)
    | 'f' => some (.literal (Char.ofNat 12), rest)
    | 't' => some (.literal '\t', rest)
    | 'n' => some (.literal '\n', rest)
    | 'r' => some (.literal '\r', rest)
    | 'v' => some (.literal (Char.ofNat 11), rest)
    | 'A' => some (.look .start, rest)
    | 'z' => some (.look .finish, rest)
    | 'b' => (readBoundary (!f.unicode) rest).map fun (l, rest) => (.look l, rest)
    | 'B' => some (.look (.noBoundary (!f.unicode)), rest)
    | '<' => some (.look (.wordStart (!f.unicode)), rest)
    | '>' => some (.look (.wordFinish (!f.unicode)), rest)
    | _ => if isAscii c ∧ !isAsciiLetter c ∧ !isAsciiDigit c then some (.literal c, rest) else none

end Storefront.Pattern
