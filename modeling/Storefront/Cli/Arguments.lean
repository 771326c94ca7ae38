import Storefront.Money.Reader

/-! # Command lines

A command line has options, then a command, then the command's own options and words in any order. The
options that hold for every command may stand on both sides of it; the later value counts. Short options
may be put together, and after a double dash there are only words.
-/
namespace Storefront.Cli

inductive Command
  | shops (json : Bool)
  | scan (shop : String) (uris : List String) (json : Bool)
  | rate (source target : Currency)
  | shift (general current : Money)
  | completions (shell : String)
deriving DecidableEq

structure Invocation where
  config : Option String
  allowRateFile : Bool
  command : Command
deriving DecidableEq

inductive Request
  | invocation (i : Invocation)
  | help
  | version
  | misuse
deriving DecidableEq

inductive Flag
  | config
  | logLevel
  | allowRateFile
  | json
  | shop
  | help
  | version
deriving DecidableEq

def Flag.takesValue : Flag → Bool
  | config => true
  | logLevel => true
  | shop => true
  | _ => false

/-- Where options stand: before a command, or behind one. -/
inductive Place
  | front
  | shops
  | scan
  | rate
  | shift
  | completions
deriving DecidableEq

def Place.ofName? : String → Option Place
  | "shops" => some shops
  | "scan" => some scan
  | "rate" => some rate
  | "shift" => some shift
  | "completions" => some completions
  | _ => none

def sharedFlags : List (String × Option Char × Flag) :=
  [("config", some 'c', .config), ("log-level", none, .logLevel),
    ("allow-rate-file", some 'y', .allowRateFile), ("help", some 'h', .help)]

def Place.flags : Place → List (String × Option Char × Flag)
  | front => sharedFlags ++ [("version", some 'V', .version)]
  | shops => sharedFlags ++ [("json", none, .json)]
  | scan => sharedFlags ++ [("json", none, .json), ("shop", some 's', .shop)]
  | _ => sharedFlags

def Place.long? (p : Place) (name : String) : Option Flag :=
  (p.flags.find? (·.1 == name)).map fun (_, _, flag) => flag

def Place.short? (p : Place) (name : Char) : Option Flag :=
  (p.flags.find? (·.2.1 == some name)).map fun (_, _, flag) => flag

inductive Item
  | flag (f : Flag)
  | value (f : Flag) (text : String)
  | word (text : String)
deriving DecidableEq

def Item.flag? : Item → Option Flag
  | flag f => some f
  | value f _ => some f
  | word _ => none

def looksLikeOption (arg : List Char) : Bool :=
  match arg with
  | ['-'] => false
  | '-' :: _ => true
  | _ => false

def nextValue (f : Flag) : List String → Option (List Item × List String)
  | [] => none
  | arg :: rest => if looksLikeOption arg.toList then none else some ([.value f arg], rest)

/-- Reads short options put together. What follows one with a value is the value, less an equals sign. -/
def readShort (p : Place) (rest : List String) : List Char → Option (List Item × List String)
  | [] => some ([], rest)
  | c :: more =>
    match p.short? c with
    | none => none
    | some f =>
      if f.takesValue then match more with
        | [] => nextValue f rest
        | '=' :: text => some ([.value f (String.ofList text)], rest)
        | text => some ([.value f (String.ofList text)], rest)
      else (readShort p rest more).map fun (items, rest) => (.flag f :: items, rest)

def readLong (p : Place) (rest : List String) (arg : List Char) : Option (List Item × List String) :=
  let name := arg.takeWhile (· != '=')
  match p.long? (String.ofList name), arg.drop name.length with
  | none, _ => none
  | some f, [] => if f.takesValue then nextValue f rest else some ([.flag f], rest)
  | some f, _ :: text => if f.takesValue then some ([.value f (String.ofList text)], rest) else none

def readItem (p : Place) (arg : String) (rest : List String) : Option (List Item × List String) :=
  match arg.toList with
  | ['-', '-'] => some (rest.map Item.word, [])
  | '-' :: '-' :: long => readLong p rest long
  | ['-'] => some ([.word arg], rest)
  | '-' :: short => readShort p rest short
  | _ => some ([.word arg], rest)

/-- Options of which one counts before all others: it ends the reading. -/
def Item.isUrgent (item : Item) : Bool := item == .flag .help || item == .flag .version

/-- Reads arguments up to one that ends the reading, and, in front of a command, up to the first word. The
number bounds the arguments. -/
def readItems (p : Place) : Nat → List String → Option (List Item × List String)
  | 0, rest => some ([], rest)
  | _, [] => some ([], [])
  | n + 1, arg :: rest =>
    if p = .front ∧ !looksLikeOption arg.toList then some ([], arg :: rest)
    else match readItem p arg rest with
      | none => none
      | some (items, rest) =>
        if items.any Item.isUrgent then some (items, [])
        else (readItems p n rest).map fun (more, rest) => (items ++ more, rest)

def valueOf (f : Flag) (items : List Item) : Option String :=
  items.findSome? fun
    | .value g text => if g = f then some text else none
    | _ => none

def wordsOf (items : List Item) : List String :=
  items.filterMap fun
    | .word text => some text
    | _ => none

def areValid (items : List Item) : Bool :=
  let flags := items.filterMap Item.flag?
  flags.all (fun f => flags.count f == 1) && valueOf .config items != some ""

def readCommand (p : Place) (items : List Item) : Option Command :=
  let json := items.contains (.flag .json)
  match p, wordsOf items with
  | .shops, [] => some (.shops json)
  | .scan, uris => (valueOf .shop items).map fun shop => .scan shop uris json
  | .rate, [a, b] => do return .rate (← Currency.ofText? a.toList) (← Currency.ofText? b.toList)
  | .shift, [a, b] => do return .shift (← (Money.read a.toList).toOption) (← (Money.read b.toList).toOption)
  | .completions, [shell] =>
    if ["bash", "elvish", "fish", "powershell", "zsh"].contains shell then some (.completions shell) else none
  | _, _ => none

def urgent? (items : List Item) : Option Request :=
  items.findSome? fun
    | .flag .help => some .help
    | .flag .version => some .version
    | _ => none

def readTail (front : List Item) (p : Place) (args : List String) : Request :=
  match readItems p args.length args with
  | none => .misuse
  | some (items, _) =>
    match urgent? items with
    | some request => request
    | none =>
      if !areValid items then .misuse
      else match readCommand p items with
        | none => .misuse
        | some command => .invocation
          ⟨valueOf .config items <|> valueOf .config front, (front ++ items).contains (.flag .allowRateFile), command⟩

def read (args : List String) : Request :=
  match readItems .front args.length args with
  | none => .misuse
  | some (front, rest) =>
    match urgent? front with
    | some request => request
    | none => match rest with
      | [] => .misuse
      | name :: args =>
        if !areValid front then .misuse
        else if name == "help" then .help
        else match Place.ofName? name with
          | some p => readTail front p args
          | none => .misuse

end Storefront.Cli
