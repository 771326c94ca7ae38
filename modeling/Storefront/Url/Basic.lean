import Storefront.Power
import Storefront.Text.Fingerprint

/-! # Addresses

An address has a scheme and a path; it may have an authority, a query and a fragment. Its parts are
held in their written form, so that writing only puts them together.
-/
namespace Storefront

namespace Url

inductive Fault
  | emptyHost
  | invalidName
  | invalidPort
  | invalidV4
  | invalidV6
  | invalidCharacter
  | relative
deriving DecidableEq, Repr

def Fault.message : Fault → String
  | emptyHost => "empty host"
  | invalidName => "invalid international domain name"
  | invalidPort => "invalid port number"
  | invalidV4 => "invalid IPv4 address"
  | invalidV6 => "invalid IPv6 address"
  | invalidCharacter => "invalid domain character"
  | relative => "relative URL without a base"

inductive Host
  | name (s : List Char)
  | v4 (address : Nat)
  | v6 (groups : List Nat)
deriving DecidableEq, Repr

structure Authority where
  user : List Char := []
  password : List Char := []
  host : Host
  port : Option Nat := none
deriving DecidableEq, Repr

end Url

structure Url where
  scheme : List Char
  authority : Option Url.Authority
  path : List Char
  query : Option (List Char) := none
  fragment : Option (List Char) := none
deriving DecidableEq, Repr

namespace Url

/-- The number of leading zeros, and the longest stretch of two zeros or more: its place and length.
Of two longest stretches the first counts. -/
def zeroRun : List Nat → Nat × Option (Nat × Nat)
  | [] => (0, none)
  | g :: rest =>
    let (lead, best) := zeroRun rest
    let best := best.map fun (i, n) => (i + 1, n)
    if g = 0 then
      let here := lead + 1
      let better : Bool := match best with
        | some (_, n) => decide (n ≤ here)
        | none => true
      (here, if 2 ≤ here ∧ better then some (0, here) else best)
    else (0, best)

def groupText (g : Nat) : List Char := Nat.toDigits 16 g

def groupsText (gs : List Nat) : List Char := ((gs.map groupText).intersperse [':']).flatten

def v6Text (groups : List Nat) : List Char :=
  match (zeroRun groups).2 with
  | some (i, n) => groupsText (groups.take i) ++ [':', ':'] ++ groupsText (groups.drop (i + n))
  | none => groupsText groups

def Host.toText : Host → List Char
  | name s => s
  | v4 a =>
    (([a / pow2 24, a / pow2 16 % 256, a / pow2 8 % 256, a % 256].map (Nat.toDigits 10)).intersperse
      ['.']).flatten
  | v6 groups => ['['] ++ v6Text groups ++ [']']

def Authority.userText (a : Authority) : List Char :=
  let password := if a.password.isEmpty then [] else ':' :: a.password
  if a.user.isEmpty && password.isEmpty then [] else a.user ++ password ++ ['@']

def Authority.toText (a : Authority) : List Char :=
  a.userText ++ a.host.toText ++ (match a.port with
    | some p => ':' :: Nat.toDigits 10 p
    | none => [])

/-- What stands between the scheme and the path. A path that would look like an authority is kept
apart by a dot. -/
def frontText (u : Url) : List Char :=
  match u.authority with
  | some a => ['/', '/'] ++ a.toText
  | none => if ['/', '/'].isPrefixOf u.path then ['/', '.'] else []

def toText (u : Url) : List Char :=
  u.scheme ++ [':'] ++ u.frontText ++ u.path ++
    ((u.query.map ('?' :: ·)).getD []) ++ ((u.fragment.map ('#' :: ·)).getD [])

protected def toString (u : Url) : String := String.ofList u.toText

instance : ToString Url := ⟨Url.toString⟩

end Url
end Storefront
