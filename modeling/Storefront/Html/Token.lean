import Storefront.Html.Entity
import Storefront.Html.Node
import Storefront.Unicode.Case

/-! # Tokens of HTML

Markup is cut into tags, comments, document types and characters. How characters are read depends on
the element they stand in: markup and references, references only, or neither.
-/
namespace Storefront.Html
open Unicode

structure Tag where
  name : String
  attrs : List Attr := []
  selfClosing : Bool := false
deriving Repr, Inhabited

inductive Token
  | doctype (name publicId systemId : Option String) (forceLoose : Bool)
  | startTag (t : Tag)
  | endTag (t : Tag)
  | comment (s : String)
  | char (c : Char)
  | eof
deriving Repr, Inhabited

inductive TextMode
  | markup
  | references
  | raw
  | script
  | plain
deriving DecidableEq, Repr, Inhabited

def isSpace (c : Char) : Bool :=
  c == ' ' || c == '\n' || c == '\t' || c == '\r' || c == Char.ofNat 12

def nul : Char := Char.ofNat 0
def replacement : Char := Char.ofNat 0xfffd

def visible (c : Char) : Char := if c = nul then replacement else c

def lowerString (s : List Char) : String := String.ofList (s.map asciiLower)

/-- Characters that the numbers 128 to 159 stand for. -/
def legacyPoints : List Nat :=
  [0x20ac, 0x81, 0x201a, 0x192, 0x201e, 0x2026, 0x2020, 0x2021, 0x2c6, 0x2030, 0x160, 0x2039, 0x152,
   0x8d, 0x17d, 0x8f, 0x90, 0x2018, 0x2019, 0x201c, 0x201d, 0x2022, 0x2013, 0x2014, 0x2dc, 0x2122,
   0x161, 0x203a, 0x153, 0x9d, 0x17e, 0x178]

def numericChar (n : Nat) : Char :=
  if n = 0 ∨ !n.isValidChar then replacement
  else if 0x80 ≤ n ∧ n < 0xa0 then Char.ofNat (legacyPoints.getD (n - 0x80) n)
  else Char.ofNat n

def isAlnum (c : Char) : Bool := isAsciiLetter c || isAsciiDigit c

def readNumeric (base : Nat) (s : List Char) : Option (Char × List Char) :=
  let isDigit := fun c => match Entity.hexDigit? c with
    | some d => decide (d < base)
    | none => false
  let digits := s.takeWhile isDigit
  if digits.isEmpty then none
  else
    let value := digits.foldl (fun n c => min (n * base + (Entity.hexDigit? c).getD 0) 0x110000) 0
    let rest := s.drop digits.length
    some (numericChar value, match rest with
      | ';' :: rest => rest
      | _ => rest)

def openPrefix : (fuel : Nat) → List Char → Option (List Char)
  | 0, _ => none
  | fuel + 1, run =>
    if run.isEmpty then none
    else if Entity.isOpen (String.ofList run) then some run
    else openPrefix fuel run.dropLast

/-- Reads a reference, after its ampersand: the characters it stands for and the rest. In an attribute
a name without a semicolon does not count before a letter, a digit or an equals sign. -/
def readReference (inAttr : Bool) (s : List Char) : Option (List Char × List Char) :=
  match s with
  | '#' :: 'x' :: rest => (readNumeric 16 rest).map fun (c, rest) => ([c], rest)
  | '#' :: 'X' :: rest => (readNumeric 16 rest).map fun (c, rest) => ([c], rest)
  | '#' :: rest => (readNumeric 10 rest).map fun (c, rest) => ([c], rest)
  | _ =>
    let run := s.takeWhile isAlnum
    let closed := match s.drop run.length with
      | ';' :: rest => (Entity.find? (String.ofList run)).map (·, rest)
      | _ => none
    match closed with
    | some found => some found
    | none =>
      let run := run.take (Entity.longest + 1)
      match openPrefix (run.length + 1) run with
      | none => none
      | some name =>
        let rest := s.drop name.length
        if inAttr && rest.head?.any (fun c => c == '=' || isAlnum c) then none
        else (Entity.find? (String.ofList name)).map (·, rest)

/-- Reads an attribute value up to a character that ends it; that character is left. Without an end
there is no value. -/
def readValue (isEnd : Char → Bool) (out : List Char) : (fuel : Nat) → List Char →
    Option (String × List Char)
  | 0, _ => none
  | _, [] => none
  | fuel + 1, c :: rest =>
    if isEnd c then some (String.ofList out.reverse, c :: rest)
    else if c = '&' then
      match readReference true rest with
      | some (cs, rest) => readValue isEnd (cs.reverse ++ out) fuel rest
      | none => readValue isEnd ('&' :: out) fuel rest
    else readValue isEnd (visible c :: out) fuel rest

def addAttr (attrs : List Attr) (name value : String) : List Attr :=
  if attrs.any (·.name == name) then attrs else attrs ++ [{ name := name, value := value }]

/-- Reads what follows a tag's name, up to its end: attributes and whether the tag closes itself. A tag
that is not finished is none. -/
def readAttrs (attrs : List Attr) : (fuel : Nat) → List Char → Option (List Attr × Bool × List Char)
  | 0, _ => none
  | _, [] => none
  | fuel + 1, c :: rest =>
    if isSpace c then readAttrs attrs fuel rest
    else if c = '>' then some (attrs, false, rest)
    else if c = '/' then
      match rest with
      | '>' :: rest => some (attrs, true, rest)
      | _ => readAttrs attrs fuel rest
    else
      let isNameEnd := fun c => isSpace c || c == '/' || c == '>' || c == '='
      let more := rest.takeWhile (!isNameEnd ·)
      let name := lowerString ((c :: more).map visible)
      let after := (rest.drop more.length).dropWhile isSpace
      match after with
      | '=' :: value =>
        match value.dropWhile isSpace with
        | [] => none
        | '"' :: value => (readValue (· == '"') [] (value.length + 1) value).bind fun (v, rest) =>
          readAttrs (addAttr attrs name v) fuel (rest.drop 1)
        | '\'' :: value => (readValue (· == '\'') [] (value.length + 1) value).bind fun (v, rest) =>
          readAttrs (addAttr attrs name v) fuel (rest.drop 1)
        | '>' :: rest => some (addAttr attrs name "", false, rest)
        | value =>
          (readValue (fun c => isSpace c || c == '>') [] (value.length + 1) value).bind fun (v, rest) =>
            readAttrs (addAttr attrs name v) fuel rest
      | after => readAttrs (addAttr attrs name "") fuel after

def readTag (s : List Char) : Option (Tag × List Char) :=
  let isNameEnd := fun c => isSpace c || c == '/' || c == '>'
  let name := s.takeWhile (!isNameEnd ·)
  let rest := s.drop name.length
  (readAttrs [] (rest.length + 1) rest).map fun (attrs, closing, rest) =>
    (⟨lowerString (name.map visible), attrs, closing⟩, rest)

/-- Reads a comment, after its opening; `dashes` of the last characters may belong to its end. -/
def readComment (out : List Char) : (fuel : Nat) → List Char → String × List Char
  | 0, s => (String.ofList out.reverse, s)
  | _, [] => (String.ofList out.reverse, [])
  | fuel + 1, c :: rest =>
    match c, rest with
    | '-', '-' :: '>' :: rest => (String.ofList out.reverse, rest)
    | '-', '-' :: '!' :: '>' :: rest => (String.ofList out.reverse, rest)
    | '-', ['-'] => (String.ofList out.reverse, [])
    | '-', ['-', '!'] => (String.ofList out.reverse, [])
    | '-', [] => (String.ofList out.reverse, [])
    | _, _ => readComment (visible c :: out) fuel rest

def commentAfterOpening (s : List Char) : String × List Char :=
  match s with
  | '>' :: rest => ("", rest)
  | '-' :: '>' :: rest => ("", rest)
  | _ => readComment [] (s.length + 1) s

def bogusComment (s : List Char) : String × List Char :=
  let body := s.takeWhile (· != '>')
  (String.ofList (body.map visible), s.drop (body.length + 1))

def readIdentifier : List Char → Option (String × Bool × List Char)
  | q :: rest =>
    if q = '"' ∨ q = '\'' then
      let body := rest.takeWhile fun c => c != q && c != '>'
      let s := String.ofList (body.map visible)
      match rest.drop body.length with
      | [] => some (s, false, [])
      | c :: rest => if c = q then some (s, true, rest) else some (s, false, c :: rest)
    else none
  | [] => none

def dropTag (s : List Char) : List Char := (s.dropWhile (· != '>')).drop 1

def startsWithWord (word : String) (s : List Char) : Bool :=
  lowerString (s.take word.length) == word

def readDoctype (s : List Char) : Token × List Char :=
  let s := s.dropWhile isSpace
  let name := s.takeWhile fun c => !isSpace c && c != '>'
  let rest := (s.drop name.length).dropWhile isSpace
  if name.isEmpty then (.doctype none none none true, dropTag rest)
  else
    let name := some (lowerString (name.map visible))
    let finish := fun (pub sys : Option String) (bad : Bool) rest => (Token.doctype name pub sys bad, dropTag rest)
    let system := fun (pub : Option String) rest =>
      match readIdentifier rest with
      | some (sys, closed, rest) => finish pub (some sys) (!closed) rest
      | none => finish pub none true rest
    match rest with
    | [] => finish none none true []
    | '>' :: rest => (.doctype name none none false, rest)
    | _ =>
      if startsWithWord "public" rest then
        match readIdentifier ((rest.drop 6).dropWhile isSpace) with
        | some (pub, true, rest) => match rest.dropWhile isSpace with
          | '>' :: rest => (.doctype name (some pub) none false, rest)
          | rest => system (some pub) rest
        | some (pub, false, rest) => finish (some pub) none true rest
        | none => finish none none true (rest.drop 6)
      else if startsWithWord "system" rest then system none ((rest.drop 6).dropWhile isSpace)
      else finish none none true rest

def readDeclaration (cdata : Bool) (s : List Char) : List Token × List Char :=
  match s with
  | '-' :: '-' :: rest =>
    let (c, rest) := commentAfterOpening rest
    ([.comment c], rest)
  | _ =>
    if startsWithWord "doctype" s then
      let (t, rest) := readDoctype (s.drop 7)
      ([t], rest)
    else if cdata ∧ ['[', 'C', 'D', 'A', 'T', 'A', '['].isPrefixOf s then
      let rest := s.drop 7
      let rec body (out : List Token) : List Char → List Token × List Char
        | [] => (out.reverse, [])
        | ']' :: ']' :: '>' :: rest => (out.reverse, rest)
        | c :: rest => body (.char c :: out) rest
      body [] rest
    else
      let (c, rest) := bogusComment s
      ([.comment c], rest)

/-- Reads what follows `<`. A tag without an end is dropped with all that follows. -/
def readMarkup (cdata : Bool) (s : List Char) : List Token × List Char :=
  match s with
  | '!' :: rest => readDeclaration cdata rest
  | '/' :: '>' :: rest => ([], rest)
  | '/' :: c :: rest =>
    if isAsciiLetter c then
      match readTag (c :: rest) with
      | some (t, rest) => ([.endTag t], rest)
      | none => ([], [])
    else
      let (c, rest) := bogusComment (c :: rest)
      ([.comment c], rest)
  | '?' :: _ =>
    let (c, rest) := bogusComment s
    ([.comment c], rest)
  | c :: _ =>
    if isAsciiLetter c then
      match readTag s with
      | some (t, rest) => ([.startTag t], rest)
      | none => ([], [])
    else ([.char '<'], s)
  | [] => ([.char '<'], [])

def isEndOf (name : String) (s : List Char) : Bool :=
  lowerString (s.take name.length) == name &&
    (s.drop name.length).head?.any fun c => isSpace c || c == '/' || c == '>'

def isWord (name : String) (s : List Char) : Bool := isEndOf name s

/-- Where a script stands: in plain code, in a comment, or in a script within a comment. The count is
that of the dashes just read, two at most. -/
inductive ScriptState
  | code
  | comment (dashes : Nat)
  | nested (dashes : Nat)
deriving DecidableEq, Repr

def readScript (state : ScriptState) (out : List Char) : (fuel : Nat) → List Char →
    List Char × List Char
  | 0, s => (out.reverse, s)
  | _, [] => (out.reverse, [])
  | fuel + 1, c :: rest =>
    match state with
    | .code =>
      if c = '<' then
        match rest with
        | '!' :: '-' :: '-' :: rest => readScript (.comment 2) ('-' :: '-' :: '!' :: '<' :: out) fuel rest
        | '/' :: tail => if isEndOf "script" tail then (out.reverse, c :: rest)
          else readScript .code (c :: out) fuel rest
        | _ => readScript .code (c :: out) fuel rest
      else readScript .code (visible c :: out) fuel rest
    | .comment dashes =>
      if c = '-' then readScript (.comment (min 2 (dashes + 1))) (c :: out) fuel rest
      else if c = '>' ∧ dashes = 2 then readScript .code (c :: out) fuel rest
      else if c = '<' then
        match rest with
        | '/' :: tail => if isEndOf "script" tail then (out.reverse, c :: rest)
          else readScript (.comment 0) (c :: out) fuel rest
        | _ => if isWord "script" rest then readScript (.nested 0) (c :: out) fuel rest
          else readScript (.comment 0) (c :: out) fuel rest
      else readScript (.comment 0) (visible c :: out) fuel rest
    | .nested dashes =>
      if c = '-' then readScript (.nested (min 2 (dashes + 1))) (c :: out) fuel rest
      else if c = '>' ∧ dashes = 2 then readScript .code (c :: out) fuel rest
      else if c = '<' then
        match rest with
        | '/' :: tail =>
          if isWord "script" tail then readScript (.comment 0) ('/' :: c :: out) fuel tail
          else readScript (.nested 0) (c :: out) fuel rest
        | _ => readScript (.nested 0) (c :: out) fuel rest
      else readScript (.nested 0) (visible c :: out) fuel rest

/-- Reads the next tokens of a nonempty text. `last` is the name of the element whose text is read,
and `cdata` says whether sections of plain characters are allowed. -/
def readTokens (mode : TextMode) (last : String) (cdata : Bool) (s : List Char) :
    List Token × List Char :=
  match s with
  | [] => ([], [])
  | c :: rest =>
    let reference := fun (_ : Unit) => match readReference false rest with
      | some (cs, rest) => (cs.map Token.char, rest)
      | none => ([Token.char '&'], rest)
    let endTag := fun (_ : Unit) => match rest with
      | '/' :: tail =>
        if isEndOf last tail then
          match readTag tail with
          | some (t, rest) => ([Token.endTag t], rest)
          | none => ([], [])
        else ([.char '<'], rest)
      | _ => ([Token.char '<'], rest)
    match mode with
    | .markup =>
      if c = '&' then reference () else if c = '<' then readMarkup cdata rest else ([.char c], rest)
    | .references =>
      if c = '&' then reference () else if c = '<' then endTag () else ([.char (visible c)], rest)
    | .raw => if c = '<' then endTag () else ([.char (visible c)], rest)
    | .script =>
      let (text, tail) := readScript .code [] (s.length + 1) s
      if text.isEmpty then endTag () else (text.map Token.char, tail)
    | .plain => ([.char (visible c)], rest)

def normalizeLines : List Char → List Char
  | [] => []
  | '\r' :: '\n' :: rest => '\n' :: normalizeLines rest
  | '\r' :: rest => '\n' :: normalizeLines rest
  | c :: rest => c :: normalizeLines rest

def preprocess (s : List Char) : List Char :=
  normalizeLines (match s with
    | c :: rest => if c.toNat = 0xfeff then rest else s
    | [] => [])

end Storefront.Html
