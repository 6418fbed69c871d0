import Mathlib

/-!
# JSON values and typed access

The part of `nlohmann::json` that the message structs use: object construction,
`at` (`atKey` here), and `get<T>` for the field types of the protocol. The text form (`dump`,
`parse`) and exception texts are the library's own and stay parameters.
-/

namespace TurboCore.AiDist

/-- JSON values up to the library's `operator==`, which compares signed and
unsigned integers by value; they share the constructor `integer`. -/
inductive Json where
  | null
  | boolean (value : Bool)
  | integer (value : Int)
  | float (value : Rat)
  | string (value : String)
  | array (elements : List Json)
  | object (fields : List (String × Json))

/-- The exceptions thrown by typed access and parsing. -/
inductive JsonError where
  | parseError
  | typeError
  | keyNotFound (key : String)
deriving DecidableEq, Repr

/-- The text layer of the JSON library, which is not part of the repository. -/
structure JsonLibrary where
  dump : Json → List UInt8
  parse : List UInt8 → Except JsonError Json
  what : JsonError → String

namespace Json

/-- `object[key] = value`: the fields are kept in key order, as in `std::map`. -/
def setField (key : String) (value : Json) : List (String × Json) → List (String × Json)
  | [] => [(key, value)]
  | (otherKey, other) :: fields =>
      if key = otherKey then (key, value) :: fields
      else if key < otherKey then (key, value) :: (otherKey, other) :: fields
      else (otherKey, other) :: setField key value fields

/-- An object built from an initializer list whose keys are distinct. -/
def ofFields (fields : List (String × Json)) : Json :=
  .object (fields.foldl (fun built field => setField field.1 field.2 built) [])

/-- `j.at(key)`. -/
def atKey (json : Json) (key : String) : Except JsonError Json :=
  match json with
  | .object fields =>
      match fields.lookup key with
      | some value => .ok value
      | none => .error (.keyNotFound key)
  | _ => .error .typeError

/-- The integer part towards zero, as `static_cast` takes it from a double. -/
def truncate (value : Rat) : Int := value.num.tdiv value.den

/-- `get<int32_t>`: any number or boolean, converted by `static_cast`. A float
outside the target range is undefined in C++; the model reduces it modulo 2^32. -/
def getInt32 : Json → Except JsonError Int32
  | .integer value => .ok (Int32.ofInt value)
  | .float value => .ok (Int32.ofInt (truncate value))
  | .boolean value => .ok (if value then 1 else 0)
  | _ => .error .typeError

/-- `get<uint64_t>`: any number, converted by `static_cast`. -/
def getUInt64 : Json → Except JsonError UInt64
  | .integer value => .ok (UInt64.ofInt value)
  | .float value => .ok (UInt64.ofInt (truncate value))
  | _ => .error .typeError

/-- `get<bool>`. -/
def getBool : Json → Except JsonError Bool
  | .boolean value => .ok value
  | _ => .error .typeError

/-- `get<std::string>`. -/
def getString : Json → Except JsonError String
  | .string value => .ok value
  | _ => .error .typeError

/-- `get<std::vector<std::string>>`. -/
def getStrings : Json → Except JsonError (List String)
  | .array elements => elements.mapM getString
  | _ => .error .typeError

/-- A stored `int32_t`. -/
def ofInt32 (value : Int32) : Json := .integer value.toInt

/-- A stored `uint64_t`. -/
def ofUInt64 (value : UInt64) : Json := .integer value.toNat

/-- A stored `std::vector<std::string>`. -/
def ofStrings (values : List String) : Json := .array (values.map .string)

private theorem lookup_cons_eq_ite (key query : String) (value : Json)
    (fields : List (String × Json)) :
    List.lookup query ((key, value) :: fields) =
      if query = key then some value else fields.lookup query := by
  by_cases same : query = key
  · simp [same]
  · have different : (query == key) = false := by simpa using same
    simp [List.lookup_cons, different, same]

/-- Setting a field changes the lookup of its own key only. -/
@[simp] theorem lookup_setField (key query : String) (value : Json) (fields : List (String × Json)) :
    (setField key value fields).lookup query =
      if query = key then some value else fields.lookup query := by
  induction fields with
  | nil => simp [setField, lookup_cons_eq_ite]
  | cons field rest inductionHypothesis =>
      obtain ⟨otherKey, other⟩ := field
      simp only [setField]
      by_cases equal : key = otherKey
      · subst equal
        simp only [if_true, lookup_cons_eq_ite]
        split_ifs <;> rfl
      · by_cases less : key < otherKey
        · simp only [if_neg equal, if_pos less, lookup_cons_eq_ite]
        · simp only [if_neg equal, if_neg less, lookup_cons_eq_ite, inductionHypothesis]
          by_cases same : query = key
          · simp [same, equal]
          · simp [same]

/-- `atKey` on an object is a lookup of the key. -/
@[simp] theorem atKey_object (fields : List (String × Json)) (key : String) :
    (object fields).atKey key =
      match fields.lookup key with
      | some value => .ok value
      | none => .error (.keyNotFound key) := rfl

/-- A successful read hands its value to the rest of a conversion. -/
@[simp] theorem ok_bind {α β : Type} (value : α) (continuation : α → Except JsonError β) :
    (Except.ok value >>= continuation) = continuation value := rfl

/-- A failed read ends a conversion with its error. -/
@[simp] theorem error_bind {α β : Type} (error : JsonError)
    (continuation : α → Except JsonError β) :
    ((Except.error error : Except JsonError α) >>= continuation) = .error error := rfl

@[simp] theorem getInt32_ofInt32 (value : Int32) : (ofInt32 value).getInt32 = .ok value := by
  simp [ofInt32, getInt32]

@[simp] theorem getUInt64_ofUInt64 (value : UInt64) :
    (ofUInt64 value).getUInt64 = .ok value := by
  simp only [ofUInt64, getUInt64, UInt64.ofInt, Except.ok.injEq]
  apply UInt64.toNat_inj.mp
  have bound := value.toNat_lt
  rw [UInt64.toNat_ofNat']
  omega

@[simp] theorem getBool_boolean (value : Bool) : (boolean value).getBool = .ok value := rfl

@[simp] theorem getString_string (value : String) : (string value).getString = .ok value := rfl

@[simp] theorem getStrings_ofStrings (values : List String) :
    (ofStrings values).getStrings = .ok values := by
  simp only [ofStrings, getStrings]
  induction values with
  | nil => rfl
  | cons value rest inductionHypothesis =>
      simp only [List.map_cons, List.mapM_cons, inductionHypothesis, getString]
      rfl

end Json

end TurboCore.AiDist
