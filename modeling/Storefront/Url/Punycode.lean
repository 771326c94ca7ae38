/-! # Punycode

Names outside ASCII are written with ASCII letters and digits: the ASCII characters first, then the
others in ascending order, each as its distance from the one before in a variable number of digits.
-/
namespace Storefront.Url.Punycode

def digit (d : Nat) : Char := if d < 26 then Char.ofNat (97 + d) else Char.ofNat (48 + (d - 26))

/-- The smallest digit that ends a number at its `k`th place. -/
def threshold (k bias : Nat) : Nat :=
  if k ≤ bias then 1 else if bias + 26 ≤ k then 26 else k - bias

def adaptFrom (delta k : Nat) : (fuel : Nat) → Nat × Nat
  | 0 => (delta, k)
  | fuel + 1 => if 455 < delta then adaptFrom (delta / 35) (k + 36) fuel else (delta, k)

def adapt (delta count : Nat) (first : Bool) : Nat :=
  let delta := if first then delta / 700 else delta / 2
  let (delta, k) := adaptFrom (delta + delta / count) 0 64
  k + 36 * delta / (delta + 38)

def writeNumber (bias : Nat) : (fuel : Nat) → (q k : Nat) → List Char
  | 0, _, _ => []
  | fuel + 1, q, k =>
    let t := threshold k bias
    if q < t then [digit q]
    else digit (t + (q - t) % (36 - t)) :: writeNumber bias fuel ((q - t) / (36 - t)) (k + 36)

structure State where
  next : Nat
  delta : Nat
  bias : Nat
  done : Nat
  out : List Char

/-- Goes through the text once for the character `n`, and writes each place where it stands. -/
def pass (n : Nat) (basic : Nat) (s : State) : List Char → State
  | [] => { s with delta := s.delta + 1, next := n + 1 }
  | c :: rest =>
    if c.toNat < n then pass n basic { s with delta := s.delta + 1 } rest
    else if c.toNat = n then
      let out := s.out ++ writeNumber s.bias 64 s.delta 36
      pass n basic { s with delta := 0, bias := adapt s.delta (s.done + 1) (s.done == basic),
                            done := s.done + 1, out } rest
    else pass n basic s rest

def writeFrom (text : List Char) (basic : Nat) : (fuel : Nat) → State → State
  | 0, s => s
  | fuel + 1, s =>
    match ((text.map Char.toNat).filter (s.next ≤ ·)).min? with
    | none => s
    | some m =>
      let s := { s with delta := s.delta + (m - s.next) * (s.done + 1) }
      writeFrom text basic fuel (pass m basic s text)

def encode (text : List Char) : List Char :=
  let ascii := text.filter (·.toNat < 128)
  let start := if ascii.isEmpty then [] else ascii ++ ['-']
  (writeFrom text ascii.length text.length ⟨128, 0, 72, ascii.length, start⟩).out

end Storefront.Url.Punycode
