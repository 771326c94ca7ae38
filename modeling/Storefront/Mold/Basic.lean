/-! # Molds

A mold is one instruction for reshaping a text: its kind and its attributes, all of them strings.
Nothing is checked when a mold is written down; whether it is well formed shows when it is used.
-/
namespace Storefront

inductive Mold.Kind
  | append
  | prepend
  | floatAdd
  | floatMult
  | float1DivX
  | addIfMissing
  | spacer
  | deSpace
  | onlyFloatChars
  | fakeLength
  | substr
  | trim
  | htmlDecode
  | before
  | after
  | afterLast
  | between
  | commas2Points
  | replace
  | remove
  | stripHtmlComments
  | setIfEmpty
  | replaceIfLonger
  | cutEnd
  | cutStart
  | easyHash
  | titleCase
  | regexReplace
  | override
deriving DecidableEq, Repr

structure Mold where
  kind : Mold.Kind
  attributes : List String := []
deriving DecidableEq, Repr

namespace Mold

def Kind.all : List Kind :=
  [.append, .prepend, .floatAdd, .floatMult, .float1DivX, .addIfMissing, .spacer, .deSpace,
   .onlyFloatChars, .fakeLength, .substr, .trim, .htmlDecode, .before, .after, .afterLast, .between,
   .commas2Points, .replace, .remove, .stripHtmlComments, .setIfEmpty, .replaceIfLonger, .cutEnd,
   .cutStart, .easyHash, .titleCase, .regexReplace, .override]

/-- The kind's name in messages. -/
def Kind.name : Kind → String
  | append => "Append"
  | prepend => "Prepend"
  | floatAdd => "FloatAdd"
  | floatMult => "FloatMult"
  | float1DivX => "Float1DivX"
  | addIfMissing => "AddIfMissing"
  | spacer => "Spacer"
  | deSpace => "DeSpace"
  | onlyFloatChars => "OnlyFloatChars"
  | fakeLength => "FakeLength"
  | substr => "Substr"
  | trim => "Trim"
  | htmlDecode => "HtmlDecode"
  | before => "Before"
  | after => "After"
  | afterLast => "AfterLast"
  | between => "Between"
  | commas2Points => "Commas2Points"
  | replace => "Replace"
  | remove => "Remove"
  | stripHtmlComments => "StripHtmlComments"
  | setIfEmpty => "SetIfEmpty"
  | replaceIfLonger => "ReplaceIfLonger"
  | cutEnd => "CutEnd"
  | cutStart => "CutStart"
  | easyHash => "EasyHash"
  | titleCase => "TitleCase"
  | regexReplace => "RegexReplace"
  | override => "Override"

/-- The kind's name in stored rules. -/
def Kind.key : Kind → String
  | append => "append"
  | prepend => "prepend"
  | floatAdd => "float_add"
  | floatMult => "float_mult"
  | float1DivX => "float1_div_x"
  | addIfMissing => "add_if_missing"
  | spacer => "spacer"
  | deSpace => "de_space"
  | onlyFloatChars => "only_float_chars"
  | fakeLength => "fake_length"
  | substr => "substr"
  | trim => "trim"
  | htmlDecode => "html_decode"
  | before => "before"
  | after => "after"
  | afterLast => "after_last"
  | between => "between"
  | commas2Points => "commas2_points"
  | replace => "replace"
  | remove => "remove"
  | stripHtmlComments => "strip_html_comments"
  | setIfEmpty => "set_if_empty"
  | replaceIfLonger => "replace_if_longer"
  | cutEnd => "cut_end"
  | cutStart => "cut_start"
  | easyHash => "easy_hash"
  | titleCase => "title_case"
  | regexReplace => "regex_replace"
  | override => "override"

def Kind.ofKey? (key : String) : Option Kind := Kind.all.find? (·.key == key)

inductive Cause
  | missingAttribute (index : Nat)
  | notInteger (raw : String)
  | negative (value : Int)
  | emptySearch
  | emptyFiller
  | invalidPattern
deriving DecidableEq, Repr

def Cause.message : Cause → String
  | missingAttribute index => s!"missing attribute #{index + 1}"
  | notInteger raw => s!"attribute '{raw}' is not an integer"
  | negative value => s!"attribute '{value}' must not be negative"
  | emptySearch => "search text must not be empty"
  | emptyFiller => "filler must not be empty"
  | invalidPattern => "invalid pattern"

structure Fault where
  kind : Kind
  cause : Cause
deriving DecidableEq, Repr

def Fault.message (f : Fault) : String := s!"{f.kind.name} mold: {f.cause.message}"

end Mold
end Storefront
