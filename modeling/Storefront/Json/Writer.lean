import Storefront.Json.Basic
import Storefront.Text.Fingerprint

/-! # Writing JSON

Values are written on one line, or with one field or item on each line, indented by two blanks.
-/
namespace Storefront.Json

def escapeChar (c : Char) : List Char :=
  match c with
  | '"' => ['\\', '"']
  | '\\' => ['\\', '\\']
  | '\n' => ['\\', 'n']
  | '\r' => ['\\', 'r']
  | '\t' => ['\\', 't']
  | _ =>
    if c.toNat = 8 then ['\\', 'b']
    else if c.toNat = 12 then ['\\', 'f']
    else if c.toNat < 32 then '\\' :: 'u' :: Text.hexDigits 4 c.toNat
    else [c]

def quoted (s : String) : String := "\"" ++ String.ofList (s.toList.flatMap escapeChar) ++ "\""

def realText (x : Float) : String :=
  let s := Binary64.toText x
  String.ofList (if s.contains '.' then s else s ++ ['.', '0'])

mutual
def compact : Json → String
  | null => "null"
  | bool b => if b then "true" else "false"
  | integer n => toString n
  | real x => realText x
  | string s => quoted s
  | array items => "[" ++ compactItems items ++ "]"
  | object fs => "\x7b" ++ compactFields fs ++ "\x7d"
def compactItems : List Json → String
  | [] => ""
  | [v] => v.compact
  | v :: rest => v.compact ++ "," ++ compactItems rest
def compactFields : List (String × Json) → String
  | [] => ""
  | [(k, v)] => quoted k ++ ":" ++ v.compact
  | (k, v) :: rest => quoted k ++ ":" ++ v.compact ++ "," ++ compactFields rest
end

def indent (depth : Nat) : String := "\n" ++ String.ofList (List.replicate (2 * depth) ' ')

mutual
/-- The value over several lines; `depth` is that of its last line. -/
def prettyAt (depth : Nat) : Json → String
  | array items => if items.isEmpty then "[]" else "[" ++ prettyItems (depth + 1) items ++ indent depth ++ "]"
  | object fs =>
    if fs.isEmpty then "\x7b\x7d" else "\x7b" ++ prettyFields (depth + 1) fs ++ indent depth ++ "\x7d"
  | null => "null"
  | bool b => if b then "true" else "false"
  | integer n => toString n
  | real x => realText x
  | string s => quoted s
def prettyItems (depth : Nat) : List Json → String
  | [] => ""
  | [v] => indent depth ++ v.prettyAt depth
  | v :: rest => indent depth ++ v.prettyAt depth ++ "," ++ prettyItems depth rest
def prettyFields (depth : Nat) : List (String × Json) → String
  | [] => ""
  | [(k, v)] => indent depth ++ quoted k ++ ": " ++ v.prettyAt depth
  | (k, v) :: rest => indent depth ++ quoted k ++ ": " ++ v.prettyAt depth ++ "," ++ prettyFields depth rest
end

def pretty (j : Json) : String := j.prettyAt 0

end Storefront.Json
