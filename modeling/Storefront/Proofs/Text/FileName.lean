import Mathlib.Algebra.Group.Nat.Defs
import Mathlib.Data.List.Infix
import Storefront.Fetch.Cache

/-! # File names of addresses

The file name of an address is made of safe characters only, is not too long, and ends with the hash of the address in
sixteen digits. So the file of a page is right in the folder, whatever its address, and two pages have one file only
if their addresses have one hash.
-/
namespace Storefront
open Unicode

namespace Text

def isHexDigit (c : Char) : Bool := isAsciiDigit c || ('a' ≤ c && c ≤ 'f')

def hexDigitValue (c : Char) : Nat := if isAsciiDigit c then c.toNat - '0'.toNat else c.toNat - 'a'.toNat + 10

/-- The number that hexadecimal digits stand for. -/
def hexValue (digits : List Char) : Nat := digits.foldl (fun n c => n * 16 + hexDigitValue c) 0

theorem isHexDigit_hexDigit : ∀ n < 16, isHexDigit (hexDigit n) = true := by decide

theorem hexDigitValue_hexDigit : ∀ n < 16, hexDigitValue (hexDigit n) = n := by decide

theorem length_hexDigits (count n : Nat) : (hexDigits count n).length = count := by
  induction count generalizing n with
  | zero => rfl
  | succ count ih => rw [hexDigits, List.length_append, ih, List.length_singleton]

theorem isHexDigit_of_mem_hexDigits {count n : Nat} {c : Char} (h : c ∈ hexDigits count n) : isHexDigit c = true := by
  induction count generalizing n with
  | zero => cases h
  | succ count ih =>
    rcases List.mem_append.mp h with h | h
    · exact ih h
    · rw [List.mem_singleton.mp h]
      exact isHexDigit_hexDigit _ (Nat.mod_lt _ (by decide))

theorem hexValue_hexDigits (count n : Nat) : hexValue (hexDigits count n) = n % 16 ^ count := by
  induction count generalizing n with
  | zero => simp [hexDigits, hexValue, Nat.mod_one]
  | succ count ih =>
    have hstep : hexValue (hexDigits (count + 1) n) = hexValue (hexDigits count (n / 16)) * 16 + n % 16 := by
      simp only [hexDigits, hexValue, List.foldl_append, List.foldl_cons, List.foldl_nil,
        hexDigitValue_hexDigit _ (Nat.mod_lt n (by decide))]
    rw [hstep, ih, Nat.pow_succ, Nat.mul_comm (16 ^ count), Nat.mod_mul]
    omega

/-- The FNV-1a hash of 64 bits on whole numbers: each byte is combined with the hash so far, and that is multiplied by
a prime. -/
def fnv1a (bytes : List UInt8) : Nat :=
  bytes.foldl (fun hash byte => (hash ^^^ byte.toNat) * 1099511628211 % 2 ^ 64) 14695981039346656037

theorem toNat_fnvBytes (bytes : List UInt8) : (fnvBytes bytes).toNat = fnv1a bytes := by
  have hfold (hash : UInt64) : (bytes.foldl fnvStep hash).toNat =
      bytes.foldl (fun hash byte => (hash ^^^ byte.toNat) * 1099511628211 % 2 ^ 64) hash.toNat := by
    induction bytes generalizing hash with
    | nil => rfl
    | cons byte bytes ih =>
      have hstep : (fnvStep hash byte).toNat = (hash.toNat ^^^ byte.toNat) * 1099511628211 % 2 ^ 64 := by
        rw [fnvStep, UInt64.toNat_mul, UInt64.toNat_xor, UInt8.toNat_toUInt64]
        rfl
      rw [List.foldl_cons, List.foldl_cons, ih, hstep]
  exact hfold fnvOffset

theorem toNat_fnv64 (uri : List Char) : (fnv64 uri).toNat = fnv1a (String.ofList uri).toUTF8.data.toList := by
  have hbytes : (String.ofList uri).toUTF8.data.toList = utf8Bytes uri := by
    rw [String.toUTF8, String.toByteArray_ofList, List.utf8Encode, List.toList_data_toByteArray, utf8Bytes]
  rw [hbytes, fnv64, toNat_fnvBytes]

example : fnv1a "foobar".toUTF8.data.toList = 0x85944171f73967e8 := by decide +kernel

theorem hexValue_fnv64 (uri : List Char) : hexValue (hexDigits 16 (fnv64 uri).toNat) = (fnv64 uri).toNat := by
  have hlt : (fnv64 uri).toNat < 16 ^ 16 := (fnv64 uri).toNat_lt
  rw [hexValue_hexDigits, Nat.mod_eq_of_lt hlt]

theorem isFileNameSafe_iff {c : Char} :
    isFileNameSafe c = true ↔ isAsciiLetter c = true ∨ isAsciiDigit c = true ∨ c ∈ "\x7b=_+&.$-".toList := by
  simp only [isFileNameSafe, Bool.or_eq_true, List.contains_iff_mem, or_assoc]
  refine or_congr_right (or_congr_right ?_)
  simp only [String.reduceToList, List.mem_cons, List.not_mem_nil, or_false]
  tauto

theorem isFileNameSafe_of_isHexDigit {c : Char} (h : isHexDigit c = true) : isFileNameSafe c = true := by
  rw [isHexDigit, Bool.or_eq_true] at h
  rcases h with hdigit | hletter
  · simp [isFileNameSafe, hdigit]
  · simp only [Bool.and_eq_true, decide_eq_true_eq] at hletter
    have hlower : isAsciiLower c = true := by
      simp only [isAsciiLower, Bool.and_eq_true, decide_eq_true_eq]
      exact ⟨hletter.1, Char.le_trans hletter.2 (by decide)⟩
    simp [isFileNameSafe, isAsciiLetter, hlower]

/-- What a file name has to be for an address: between 17 and 116 safe characters, the last of which are the hash. -/
structure NameFor (uri : String) (name : List Char) : Prop where
  length_ge : 17 ≤ name.length
  length_le : name.length ≤ 116
  safe : ∀ c ∈ name, isAsciiLetter c = true ∨ isAsciiDigit c = true ∨ c ∈ "\x7b=_+&.$-".toList
  digest : ∃ front digits, name = front ++ digits ∧ digits.length = 16 ∧ (∀ c ∈ digits, isHexDigit c = true) ∧
    hexValue digits = fnv1a uri.toUTF8.data.toList

/-- The readable half has at least the underscore that ends it, unless it is cut. -/
theorem nameFor_fileName (uri : String) : NameFor uri (fileName uri.toList) := by
  have hlength : (fileName uri.toList).length =
      min fileNameLimit ((uri.toList.map fileNameSwap).filter isFileNameSafe ++ ['_']).length + 16 := by
    rw [fileName, List.length_append, List.length_take, length_hexDigits]
  have hnonempty : 1 ≤ ((uri.toList.map fileNameSwap).filter isFileNameSafe ++ ['_']).length := by simp
  have hlimit : fileNameLimit = 100 := rfl
  refine ⟨by omega, by omega, fun c hc => isFileNameSafe_iff.mp ?_, _, _, rfl, length_hexDigits _ _,
    fun c => isHexDigit_of_mem_hexDigits, ?_⟩
  rcases List.mem_append.mp hc with hc | hc
  · rcases List.mem_append.mp (List.mem_of_mem_take hc) with hc | hc
    · exact (List.mem_filter.mp hc).2
    · rw [List.mem_singleton.mp hc]
      decide
  · exact isFileNameSafe_of_isHexDigit (isHexDigit_of_mem_hexDigits hc)
  · rw [hexValue_fnv64, toNat_fnv64, String.ofList_toList]

theorem fnv64_eq_of_fileName_eq {u v : List Char} (h : fileName u = fileName v) : fnv64 u = fnv64 v := by
  have hdigits := (List.append_inj' h (by rw [length_hexDigits, length_hexDigits])).2
  rw [← UInt64.toNat_inj, ← hexValue_fnv64 u, hdigits, hexValue_fnv64]

section
variable {folder name : List Char}

theorem pathParts_cons {c : Char} (hc : c ≠ '/') {rest part : List Char} {parts : List (List Char)}
    (h : pathParts rest = part :: parts) : pathParts (c :: rest) = (c :: part) :: parts := by
  rw [pathParts, h]
  exact hc

theorem exists_pathParts (path : List Char) : ∃ part parts, pathParts path = part :: parts := by
  induction path with
  | nil => exact ⟨[], [], rfl⟩
  | cons c rest ih =>
    by_cases hc : c = '/'
    · subst hc
      exact ⟨[], pathParts rest, rfl⟩
    · obtain ⟨part, parts, h⟩ := ih
      exact ⟨c :: part, parts, pathParts_cons hc h⟩

theorem pathParts_append (a b : List Char) : pathParts (a ++ '/' :: b) = pathParts a ++ pathParts b := by
  induction a with
  | nil => rfl
  | cons c a ih =>
    by_cases hc : c = '/'
    · subst hc
      simp only [List.cons_append, pathParts, ih]
    · obtain ⟨part, parts, ha⟩ := exists_pathParts a
      rw [ha, List.cons_append] at ih
      rw [List.cons_append, pathParts_cons hc ih, pathParts_cons hc ha, List.cons_append]

theorem pathParts_of_notMem (h : '/' ∉ name) : pathParts name = [name] := by
  induction name with
  | nil => rfl
  | cons c name ih =>
    rw [List.mem_cons, not_or] at h
    exact pathParts_cons (Ne.symm h.1) (ih h.2)

theorem properParts_append (a b : List Char) : properParts (a ++ '/' :: b) = properParts a ++ properParts b := by
  rw [properParts, pathParts_append, List.filter_append]
  rfl

structure ChildOf (folder name path : List Char) : Prop where
  begins : folder <+: path
  parts : properParts path = properParts folder ++ [name]
  not_up : name ≠ ['.', '.']

/-- A name without slashes that is not one of the two names made of dots is a name in the folder. -/
theorem childOf_joinPath (folder : List Char) (hslash : '/' ∉ name) (hne : name ≠ []) (hdot : name ≠ ['.'])
    (hup : name ≠ ['.', '.']) : ChildOf folder name (joinPath folder name) := by
  have hname : properParts name = [name] := by
    have hkept : (!(name.isEmpty || name == ['.'])) = true := by simp [hne, hdot]
    rw [properParts, pathParts_of_notMem hslash]
    exact List.filter_cons_of_pos hkept
  have hhead : name.head? ≠ some '/' := fun h => hslash (List.mem_of_head? h)
  unfold joinPath
  split
  · rename_i hfolder
    have hempty : folder = [] := by simpa [hhead] using hfolder
    subst hempty
    exact ⟨List.nil_prefix, hname, hup⟩
  · split
    · rename_i hend
      obtain ⟨front, rfl⟩ : ∃ front, folder = front ++ ['/'] := List.getLast?_eq_some_iff.mp hend
      refine ⟨List.prefix_append _ _, ?_, hup⟩
      have hfront : properParts (front ++ ['/']) = properParts front :=
        (properParts_append front []).trans (List.append_nil _)
      rw [List.append_assoc, List.singleton_append, properParts_append, hfront, hname]
    · exact ⟨List.prefix_append _ _, by rw [properParts_append, hname], hup⟩

end

end Text

namespace PageCache
open Text

theorem toList_fileName (url : String) : (fileName url).toList = Text.fileName url.toList ++ ".html".toList := by
  simp [fileName]

/-- The file name of an address is safe and ends with its hash, its file is right in the folder, and addresses have one
file name only if they have one hash. -/
theorem fileName_is_safe (url : String) :
    NameFor url (Text.fileName url.toList) ∧
    (∀ folder : String, ChildOf folder.toList (fileName url).toList (pathIn folder url).toList) ∧
    ∀ other : String, Text.fileName other.toList = Text.fileName url.toList → fnv64 other.toList = fnv64 url.toList := by
  have hname := nameFor_fileName url
  refine ⟨hname, fun folder => ?_, fun other => fnv64_eq_of_fileName_eq⟩
  have hlong : 22 ≤ (fileName url).toList.length := by
    have hextension : ".html".toList.length = 5 := rfl
    have := hname.length_ge
    rw [toList_fileName, List.length_append]
    omega
  have hslash : '/' ∉ (fileName url).toList := by
    rw [toList_fileName, List.mem_append, not_or]
    exact ⟨fun hmem => absurd (hname.safe _ hmem) (by decide), by decide⟩
  have hne {short : List Char} (hshort : short.length < 22) : (fileName url).toList ≠ short := by
    rintro rfl
    omega
  rw [pathIn, String.toList_ofList]
  exact childOf_joinPath folder.toList hslash (hne (by decide)) (hne (by decide)) (hne (by decide))

def crowdedUrl : String := "https://shop.test/><|@;(*];|<;;~|%"

def twinUrl : String := "https://shop.test/%>^;*[^@)<*@@#>;"

theorem fileName_is_safe_twins : crowdedUrl ≠ twinUrl ∧
    Text.fileName crowdedUrl.toList = Text.fileName twinUrl.toList ∧
    fnv64 crowdedUrl.toList = fnv64 twinUrl.toList ∧
    ChildOf "cache/".toList (fileName twinUrl).toList (pathIn "cache/" twinUrl).toList := by
  have hnames : Text.fileName crowdedUrl.toList = Text.fileName twinUrl.toList := by decide +kernel
  obtain ⟨-, hchild, hhash⟩ := fileName_is_safe twinUrl
  exact ⟨by decide +kernel, hnames, hhash crowdedUrl hnames, hchild "cache/"⟩

end PageCache
end Storefront
