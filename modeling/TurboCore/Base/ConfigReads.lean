import Mathlib
import TurboCore.Base.Config

/-!
# What Get returns for a scalar

`Get<T>` answers the stored entry if its type is `T`, and the default otherwise. A scalar of
the file is read back as a whole exactly when the number it starts with is all of it.
-/

namespace TurboCore.Base

open Foundation

variable {doubles : DoubleLibrary} {Callback : Type}

/-- The types that `Get<T>` is used with. -/
inductive ConfigType where
  | int
  | double
  | bool
  | string
deriving DecidableEq

abbrev ConfigType.Value (doubles : DoubleLibrary) : ConfigType → Type
  | .int => Int32
  | .double => doubles.Double
  | .bool => Bool
  | .string => String

/-- `std::any_cast<T>`; `none` is `bad_any_cast`. -/
def ConfigValue.anyCast : (type : ConfigType) → ConfigValue doubles → Option (type.Value doubles)
  | .int, .int value => some value
  | .double, .double value => some value
  | .bool, .bool value => some value
  | .string, .string value => some value
  | _, _ => none

/-- `Get<T>(key, default_value)`. -/
def Config.get (config : Config doubles Callback) (type : ConfigType)
    (key : String) (defaultValue : type.Value doubles) : type.Value doubles :=
  match config.configs.lookup key with
  | none => defaultValue
  | some value => (value.anyCast type).getD defaultValue

/-! ## Reading a scalar back -/

/-- `type()` of the `std::any`. -/
def ConfigValue.type : ConfigValue doubles → ConfigType
  | .int _ => .int
  | .double _ => .double
  | .bool _ => .bool
  | .string _ => .string

/-- What the whole text says as a value of a type, leading white space of a number aside. -/
def Says (doubles : DoubleLibrary) (scalarStr : String) :
    (type : ConfigType) → type.Value doubles → Prop
  | .int, value => isIntegerLiteral (skipSpace scalarStr.toList) = true ∧
      integerValue (skipSpace scalarStr.toList) = Int32.toInt value
  | .double, value => isFloatLiteral (skipSpace scalarStr.toList) = true ∧
      doubles.read (skipSpace scalarStr.toList) = some value
  | .bool, true => scalarStr ∈ trueWords
  | .bool, false => scalarStr ∈ falseWords
  | .string, text => text = scalarStr

/-- The configuration after `ParseYamlNode(prefix, node)` of a scalar node. -/
def Config.withScalar (config : Config doubles Callback) (keyPrefix scalarStr : String) :
    Config doubles Callback :=
  { config with configs := (parseYamlNode keyPrefix (.scalar (.ok scalarStr)) config.configs).1 }

theorem ConfigValue.anyCast_of_ne {value : ConfigValue doubles} {type : ConfigType}
    (other : type ≠ value.type) : value.anyCast type = none := by
  cases value <;> cases type <;> first | rfl | exact absurd rfl other

theorem Config.lookup_withScalar (config : Config doubles Callback) (keyPrefix scalarStr : String) :
    (config.withScalar keyPrefix scalarStr).configs.lookup (scalarKey keyPrefix) =
      some (parseScalar doubles scalarStr) := by
  simp [withScalar, parseYamlNode]

/-- `Get` of the stored type says the text exactly when the entry keeps it. -/
theorem Config.says_get_withScalar (config : Config doubles Callback) (keyPrefix : String)
    {scalarStr : String} {type : ConfigType} (stored : type = (parseScalar doubles scalarStr).type)
    (defaultValue : type.Value doubles) :
    Says doubles scalarStr type
        ((config.withScalar keyPrefix scalarStr).get type (scalarKey keyPrefix) defaultValue) ↔
      KeepsText doubles scalarStr := by
  subst stored
  unfold Config.get KeepsText
  rw [config.lookup_withScalar]
  generalize parseScalar doubles scalarStr = value at defaultValue ⊢
  cases value with
  | int value => exact Iff.rfl
  | double value => exact Iff.rfl
  | bool value => cases value <;> exact Iff.rfl
  | string text => exact Iff.rfl

/-- `Get` of any other type answers its default. -/
theorem Config.get_withScalar_of_ne (config : Config doubles Callback) (keyPrefix : String)
    {scalarStr : String} {type : ConfigType} (other : type ≠ (parseScalar doubles scalarStr).type)
    (defaultValue : type.Value doubles) :
    (config.withScalar keyPrefix scalarStr).get type (scalarKey keyPrefix) defaultValue =
      defaultValue := by
  unfold Config.get
  rw [config.lookup_withScalar]
  simp only [ConfigValue.anyCast_of_ne other, Option.getD_none]

/-- For every text: it is kept exactly when the number it starts with is all of it, and then
only does `Get` of the stored type answer what the text says. -/
theorem text_kept_iff_number_ends_text (doubles : DoubleLibrary) (scalarStr : String) :
    (KeepsText doubles scalarStr ↔ NumberEndsText doubles scalarStr) ∧
      ∀ {Callback : Type} (config : Config doubles Callback) (keyPrefix : String)
        (type : ConfigType) (defaultValue : type.Value doubles),
        (type = (parseScalar doubles scalarStr).type →
          (Says doubles scalarStr type ((config.withScalar keyPrefix scalarStr).get type
            (scalarKey keyPrefix) defaultValue) ↔ NumberEndsText doubles scalarStr)) ∧
        (type ≠ (parseScalar doubles scalarStr).type →
          (config.withScalar keyPrefix scalarStr).get type (scalarKey keyPrefix) defaultValue =
            defaultValue) := by
  have kept := keepsText_iff_numberEndsText doubles scalarStr
  refine ⟨kept, fun config keyPrefix type defaultValue => ⟨fun stored => ?_, fun other => ?_⟩⟩
  · exact (config.says_get_withScalar keyPrefix stored defaultValue).trans kept
  · exact config.get_withScalar_of_ne keyPrefix other defaultValue

/-- A dotted address is stored as its first number. -/
theorem address_stored_as_int :
    ¬ ∀ (doubles : DoubleLibrary) (scalarStr : String), KeepsText doubles scalarStr := by
  intro always
  have keeps := always ⟨Unit, fun _ => some (), fun _ _ => false⟩ "127.0.0.1"
  have asInt : stoi "127.0.0.1" = some 127 := by decide +kernel
  unfold KeepsText parseScalar at keeps
  rw [asInt] at keeps
  have notLiteral : isIntegerLiteral (skipSpace "127.0.0.1".toList) = false := by decide +kernel
  rw [notLiteral] at keeps
  exact Bool.false_ne_true keeps.1

end TurboCore.Base
