import Storefront.Unicode.Case
import Storefront.Unicode.Script

/-! # Sets of characters

Expressions for sets of characters, and membership in them.
-/
namespace Storefront.Pattern
open Unicode

inductive AsciiClass
  | alnum | alpha | ascii | blank | cntrl | digit | graph | lower | print | punct | space | upper
  | word | xdigit
deriving DecidableEq, Repr

def AsciiClass.ofName? : String → Option AsciiClass
  | "alnum" => some .alnum
  | "alpha" => some .alpha
  | "ascii" => some .ascii
  | "blank" => some .blank
  | "cntrl" => some .cntrl
  | "digit" => some .digit
  | "graph" => some .graph
  | "lower" => some .lower
  | "print" => some .print
  | "punct" => some .punct
  | "space" => some .space
  | "upper" => some .upper
  | "word" => some .word
  | "xdigit" => some .xdigit
  | _ => none

def AsciiClass.mem (a : AsciiClass) (c : Char) : Bool :=
  let n := c.toNat
  match a with
  | alnum => isAsciiLetter c || isAsciiDigit c
  | alpha => isAsciiLetter c
  | ascii => n < 128
  | blank => c == ' ' || c == '\t'
  | cntrl => n < 32 || n == 127
  | digit => isAsciiDigit c
  | graph => 33 ≤ n && n ≤ 126
  | lower => isAsciiLower c
  | print => 32 ≤ n && n ≤ 126
  | punct => 33 ≤ n && n ≤ 126 && !(isAsciiLetter c || isAsciiDigit c)
  | space => c == ' ' || (9 ≤ n && n ≤ 13)
  | upper => isAsciiUpper c
  | word => isAsciiLetter c || isAsciiDigit c || c == '_'
  | xdigit => isAsciiDigit c || ('a' ≤ c && c ≤ 'f') || ('A' ≤ c && c ≤ 'F')

inductive Property
  | digit
  | blank
  | word
  | alphabetic
  | uppercase
  | lowercase
  | assigned
  | categories (list : List Category)
  | script (code : String)
deriving DecidableEq, Repr

def Property.mem (p : Property) (c : Char) : Bool :=
  match p with
  | digit => isDecimalDigit c
  | blank => isBlank c
  | word => isWordChar c
  | alphabetic => isAlphabetic c
  | uppercase => isUppercase c
  | lowercase => isLowercase c
  | assigned => Category.ofChar c != .unassigned
  | categories list => list.contains (Category.ofChar c)
  | script code => Script.ofChar c == code

inductive CharSet
  | empty
  | range (first last : Char)
  | ascii (cls : AsciiClass)
  | property (p : Property)
  | union (a b : CharSet)
  | inter (a b : CharSet)
  | diff (a b : CharSet)
  | compl (a : CharSet)
  /-- The characters that differ from a member in case only. -/
  | folded (a : CharSet)
  /-- The same for the case of ASCII letters. -/
  | asciiFolded (a : CharSet)
deriving DecidableEq, Repr

namespace CharSet

def asciiSwap (c : Char) : Char :=
  if isAsciiLower c then Char.ofNat (c.toNat - 32)
  else if isAsciiUpper c then Char.ofNat (c.toNat + 32)
  else c

def mem : CharSet → Char → Bool
  | empty, _ => false
  | range a b, c => a ≤ c && c ≤ b
  | ascii cls, c => cls.mem c
  | property p, c => p.mem c
  | union a b, c => a.mem c || b.mem c
  | inter a b, c => a.mem c && b.mem c
  | diff a b, c => a.mem c && !b.mem c
  | compl a, c => !a.mem c
  | folded a, c => (foldClass c).any fun d => a.mem d
  | asciiFolded a, c => a.mem c || a.mem (asciiSwap c)

def single (c : Char) : CharSet := range c c

def any : CharSet := compl empty

def symmDiff (a b : CharSet) : CharSet := union (diff a b) (diff b a)

/-- Whether the set holds no character beyond ASCII, judged on the first 256 characters. -/
def withinAscii (a : CharSet) : Bool :=
  (List.range 128).all fun n => !a.mem (Char.ofNat (128 + n))

/-- About how much room the set takes in a compiled pattern, in bytes. -/
def weight : CharSet → Nat
  | empty => 32
  | range a b => if b.toNat < 128 then 32 else if a = b then 96 else 400
  | ascii _ => 64
  | property p => match p with
    | .digit => 3000
    | .blank => 500
    | .script _ => 1500
    | _ => 20000
  | union a b | inter a b | diff a b => a.weight + b.weight
  | compl a => a.weight + 300
  | folded a | asciiFolded a => a.weight + 32

end CharSet

/-- Names of properties are compared without case, blanks, dashes and underscores. -/
def looseName (s : List Char) : List Char :=
  let bare := (s.filter fun c => !(isBlank c || c == '-' || c == '_')).map asciiLower
  match bare with
  | 'i' :: 's' :: rest => if rest.isEmpty || rest == ['c'] then bare else rest
  | _ => bare

def categoryNames : List (List String × List Category) :=
  let letters := [Category.uppercaseLetter, .lowercaseLetter, .titlecaseLetter]
  [(["l", "letter"], letters ++ [.modifierLetter, .otherLetter]),
   (["lc", "casedletter"], letters),
   (["lu", "uppercaseletter"], [.uppercaseLetter]),
   (["ll", "lowercaseletter"], [.lowercaseLetter]),
   (["lt", "titlecaseletter"], [.titlecaseLetter]),
   (["lm", "modifierletter"], [.modifierLetter]),
   (["lo", "otherletter"], [.otherLetter]),
   (["m", "mark", "combiningmark"], [.nonspacingMark, .spacingMark, .enclosingMark]),
   (["mn", "nonspacingmark"], [.nonspacingMark]),
   (["mc", "spacingmark"], [.spacingMark]),
   (["me", "enclosingmark"], [.enclosingMark]),
   (["n", "number"], [.decimalNumber, .letterNumber, .otherNumber]),
   (["nd", "decimalnumber", "digit"], [.decimalNumber]),
   (["nl", "letternumber"], [.letterNumber]),
   (["no", "othernumber"], [.otherNumber]),
   (["p", "punctuation", "punct"], [.connectorPunctuation, .dashPunctuation, .openPunctuation,
     .closePunctuation, .initialPunctuation, .finalPunctuation, .otherPunctuation]),
   (["pc", "connectorpunctuation"], [.connectorPunctuation]),
   (["pd", "dashpunctuation"], [.dashPunctuation]),
   (["ps", "openpunctuation"], [.openPunctuation]),
   (["pe", "closepunctuation"], [.closePunctuation]),
   (["pi", "initialpunctuation"], [.initialPunctuation]),
   (["pf", "finalpunctuation"], [.finalPunctuation]),
   (["po", "otherpunctuation"], [.otherPunctuation]),
   (["s", "symbol"], [.mathSymbol, .currencySymbol, .modifierSymbol, .otherSymbol]),
   (["sm", "mathsymbol"], [.mathSymbol]),
   (["sc", "currencysymbol"], [.currencySymbol]),
   (["sk", "modifiersymbol"], [.modifierSymbol]),
   (["so", "othersymbol"], [.otherSymbol]),
   (["z", "separator"], [.spaceSeparator, .lineSeparator, .paragraphSeparator]),
   (["zs", "spaceseparator"], [.spaceSeparator]),
   (["zl", "lineseparator"], [.lineSeparator]),
   (["zp", "paragraphseparator"], [.paragraphSeparator]),
   (["c", "other"], [.control, .format, .surrogate, .privateUse, .unassigned]),
   (["cc", "control", "cntrl"], [.control]),
   (["cf", "format"], [.format]),
   (["cs", "surrogate"], [.surrogate]),
   (["co", "privateuse"], [.privateUse]),
   (["cn", "unassigned"], [.unassigned])]

def categorySet? (name : String) : Option CharSet :=
  if name = "any" then some CharSet.any
  else if name = "ascii" then some (.ascii .ascii)
  else if name = "assigned" then some (.property .assigned)
  else (categoryNames.find? fun entry => entry.1.contains name).map fun entry =>
    .property (.categories entry.2)

def scriptSet? (name : String) : Option CharSet :=
  (Script.names.find? fun entry => entry.2.any fun n => String.ofList (looseName n.toList) == name).map
    fun entry => .property (.script entry.1)

def propertySet? : String → Option CharSet
  | "alphabetic" | "alpha" => some (.property .alphabetic)
  | "uppercase" | "upper" => some (.property .uppercase)
  | "lowercase" | "lower" => some (.property .lowercase)
  | "whitespace" | "wspace" | "space" => some (.property .blank)
  | _ => none

def namedSet? (name : List Char) : Option CharSet :=
  let name := String.ofList (looseName name)
  (propertySet? name).or ((categorySet? name).or (scriptSet? name))

def valuedSet? (property value : List Char) : Option CharSet :=
  let value := String.ofList (looseName value)
  match String.ofList (looseName property) with
  | "generalcategory" | "gc" => categorySet? value
  | "script" | "sc" | "scriptextensions" | "scx" => scriptSet? value
  | _ => none

end Storefront.Pattern
