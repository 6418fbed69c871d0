import Mathlib
import TurboCore.Foundation.LongestPrefix

/-!
# How a configuration scalar gets its type

`Config::ParseYamlNode` tries `std::stoi`, then `std::stod`, then two lists of words, and
keeps the text otherwise. Both conversions take the longest prefix that is a literal and
ignore what follows it.
-/

namespace TurboCore.Base

open Foundation

/-! ## Literals -/

/-- `isspace` in the C locale. -/
def isSpace (c : Char) : Bool :=
  c = ' ' ∨ c = '\t' ∨ c = '\n' ∨ c = '\x0b' ∨ c = '\x0c' ∨ c = '\r'

/-- The text after its leading white space. -/
def skipSpace (text : List Char) : List Char := text.dropWhile isSpace

def isSign (c : Char) : Bool := c = '+' ∨ c = '-'

/-- The text after an optional sign. -/
def dropSign : List Char → List Char
  | [] => []
  | c :: rest => if isSign c then rest else c :: rest

def isHexDigit (c : Char) : Bool :=
  c.isDigit || ('a' ≤ c && c ≤ 'f') || ('A' ≤ c && c ≤ 'F')

def isDigits (text : List Char) : Bool := text ≠ [] && text.all Char.isDigit

/-- `[+-]?[0-9]+`. -/
def isIntegerLiteral (text : List Char) : Bool := isDigits (dropSign text)

/-- Digits with at most one point among them, and at least one digit. -/
def isMantissa (isDigit : Char → Bool) (text : List Char) : Bool :=
  let whole := text.takeWhile isDigit
  match text.dropWhile isDigit with
  | [] => whole ≠ []
  | '.' :: fraction => fraction.all isDigit && (whole ≠ [] || fraction ≠ [])
  | _ => false

/-- A mantissa, then nothing or an exponent mark and a decimal integer. -/
def isScaled (isDigit isMark : Char → Bool) (text : List Char) : Bool :=
  let notMark := fun c => !isMark c
  isMantissa isDigit (text.takeWhile notMark) &&
    match text.dropWhile notMark with
    | [] => true
    | _ :: exponent => isIntegerLiteral exponent

/-- An unsigned hexadecimal literal behind `0x`. -/
def isHexFloat : List Char → Bool
  | '0' :: x :: rest =>
      (x = 'x' || x = 'X') && isScaled isHexDigit (fun c => c = 'p' || c = 'P') rest
  | _ => false

/-- `inf`, `infinity`, `nan` and `nan(...)` in any case. -/
def isNamedFloat (text : List Char) : Bool :=
  let lower := text.map Char.toLower
  lower = "inf".toList || lower = "infinity".toList || lower = "nan".toList ||
    ("nan(".toList.isPrefixOf lower && lower.getLast? = some ')' &&
      ((lower.drop 4).dropLast).all fun c => c.isAlphanum || c = '_')

/-- What `strtod` converts: `[+-]?` and a decimal, hexadecimal or named literal. -/
def isFloatLiteral (text : List Char) : Bool :=
  let unsigned := dropSign text
  isScaled Char.isDigit (fun c => c = 'e' || c = 'E') unsigned || isHexFloat unsigned ||
    isNamedFloat unsigned

/-- The value of a decimal integer literal. -/
def integerValue (text : List Char) : Int :=
  let digits : Nat := (dropSign text).foldl (fun value c => 10 * value + (c.toNat - '0'.toNat)) 0
  if text.head? = some '-' then -digits else digits

/-! ## Conversions -/

/-- Doubles, which the model does not look into: the value of a float literal, absent when
`strtod` reports `ERANGE`, and the comparison that `IsConfigChanged` makes. -/
structure DoubleLibrary where
  Double : Type
  read : List Char → Option Double
  /-- `std::abs(old_v - new_v) > 1e-9` -/
  differ : Double → Double → Bool

/-- `std::stoi`; `none` is its exception. -/
def stoi (text : String) : Option Int32 :=
  match longestPrefix isIntegerLiteral (skipSpace text.toList) with
  | none => none
  | some literal =>
      let value := integerValue literal
      if -2 ^ 31 ≤ value ∧ value < 2 ^ 31 then some (Int32.ofInt value) else none

/-- `std::stod`; `none` is its exception. -/
def stod (doubles : DoubleLibrary) (text : String) : Option doubles.Double :=
  (longestPrefix isFloatLiteral (skipSpace text.toList)).bind doubles.read

/-- The `std::any` of a configuration entry. -/
inductive ConfigValue (doubles : DoubleLibrary) where
  | int (value : Int32)
  | double (value : doubles.Double)
  | bool (value : Bool)
  | string (value : String)

def trueWords : List String := ["true", "True", "1"]

def falseWords : List String := ["false", "False", "0"]

/-- The scalar branch of `ParseYamlNode`. -/
def parseScalar (doubles : DoubleLibrary) (scalarStr : String) : ConfigValue doubles :=
  match stoi scalarStr with
  | some value => .int value
  | none =>
      match stod doubles scalarStr with
      | some value => .double value
      | none =>
          if scalarStr ∈ trueWords then .bool true
          else if scalarStr ∈ falseWords then .bool false
          else .string scalarStr

/-! ## Keeping the whole text -/

/-- What is stored is the whole text, leading white space aside: an `int` is the value of
an integer literal, a `double` of a float literal, a `bool` of one of its words, and a
string is the text itself. -/
def KeepsText (doubles : DoubleLibrary) (scalarStr : String) : Prop :=
  match parseScalar doubles scalarStr with
  | .int value => isIntegerLiteral (skipSpace scalarStr.toList) = true ∧
      integerValue (skipSpace scalarStr.toList) = value.toInt
  | .double value => isFloatLiteral (skipSpace scalarStr.toList) = true ∧
      doubles.read (skipSpace scalarStr.toList) = some value
  | .bool true => scalarStr ∈ trueWords
  | .bool false => scalarStr ∈ falseWords
  | .string text => text = scalarStr

/-- A text that starts with an `int`, or failing that with a `double`, ends with it. -/
def NumberEndsText (doubles : DoubleLibrary) (scalarStr : String) : Prop :=
  ((stoi scalarStr).isSome = true → isIntegerLiteral (skipSpace scalarStr.toList) = true) ∧
    (stoi scalarStr = none → (stod doubles scalarStr).isSome = true →
      isFloatLiteral (skipSpace scalarStr.toList) = true)

/-- A text that is an integer literal is converted to its value. -/
theorem integerValue_of_stoi {text : String} {value : Int32} (converted : stoi text = some value)
    (whole : isIntegerLiteral (skipSpace text.toList) = true) :
    integerValue (skipSpace text.toList) = value.toInt := by
  unfold stoi at converted
  rw [longestPrefix_self whole] at converted
  simp only [Option.ite_none_right_eq_some, Option.some.injEq] at converted
  obtain ⟨⟨low, high⟩, rfl⟩ := converted
  exact (Int32.toInt_ofInt_of_le low high).symm

/-- A text that is a float literal is converted as a whole. -/
theorem read_of_stod {doubles : DoubleLibrary} {text : String} {value : doubles.Double}
    (converted : stod doubles text = some value)
    (whole : isFloatLiteral (skipSpace text.toList) = true) :
    doubles.read (skipSpace text.toList) = some value := by
  rw [stod, longestPrefix_self whole] at converted
  exact converted

/-- For every text: it is kept exactly when the number it starts with is all of it. -/
theorem keepsText_iff_numberEndsText (doubles : DoubleLibrary) (scalarStr : String) :
    KeepsText doubles scalarStr ↔ NumberEndsText doubles scalarStr := by
  unfold KeepsText NumberEndsText parseScalar
  cases asInt : stoi scalarStr with
  | some value =>
      constructor
      · rintro ⟨whole, _⟩
        exact ⟨fun _ => whole, fun absent => (by cases absent)⟩
      · rintro ⟨whole, _⟩
        exact ⟨whole rfl, integerValue_of_stoi asInt (whole rfl)⟩
  | none =>
      cases asDouble : stod doubles scalarStr with
      | some value =>
          constructor
          · rintro ⟨whole, _⟩
            exact ⟨fun absent => (by cases absent), fun _ _ => whole⟩
          · rintro ⟨_, whole⟩
            exact ⟨whole rfl rfl, read_of_stod asDouble (whole rfl rfl)⟩
      | none =>
          constructor
          · intro _
            exact ⟨by simp, by simp⟩
          · intro _
            by_cases isTrue : scalarStr ∈ trueWords
            · rw [if_pos isTrue]
              exact isTrue
            · rw [if_neg isTrue]
              by_cases isFalse : scalarStr ∈ falseWords
              · rw [if_pos isFalse]
                exact isFalse
              · rw [if_neg isFalse]

end TurboCore.Base
