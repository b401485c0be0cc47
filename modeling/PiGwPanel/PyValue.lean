import Mathlib.Data.Rat.Defs
import PiGwPanel.PyText

/-!
# Untyped values of the source language

What a JSON or YAML document decodes to, with the conversions code makes of such
values and the exceptions they raise. How containers, floats and other objects
are written out is left open: `render` stands for it.
-/

namespace PiGwPanel.PyValue

open PyText

/-- The exceptions a conversion may raise. -/
inductive PyError where
  | keyError
  | typeError
  | valueError
  | overflowError
  | yamlError
  deriving DecidableEq, Repr

/-- A floating-point number. -/
inductive PyFloat where
  | nan
  | infinite (negative : Bool)
  | finite (value : ℚ)

/-- An object of another class (a date, bytes, a set), by what conversions ask of it. -/
structure PyObject where
  truthy : Bool
  /-- What `int()` makes of it. -/
  int : Option ℤ
  /-- How many items a loop over it sees, none of them a mapping. -/
  items : Option ℕ
  /-- Its text would hold an integer too long to be written. -/
  long : Bool

/-- A decoded value. -/
inductive Value where
  | none
  | bool (value : Bool)
  | int (value : ℤ)
  | float (value : PyFloat)
  | str (text : String)
  | list (items : List Value)
  | dict (fields : List (Value × Value))
  | object (seen : PyObject)

/-- The items of a mapping. -/
abbrev Fields := List (Value × Value)

/-- `sys.get_int_max_str_digits()`: integers of more digits have no text. -/
def maxStrDigits : ℕ := 4300

mutual

/-- The text of the value would hold an integer that has none. -/
def Value.long : Value → Bool
  | .int value => 10 ^ maxStrDigits ≤ value.natAbs
  | .list items => longItems items
  | .dict fields => longFields fields
  | .object seen => seen.long
  | _ => false

/-- Some item has no text. -/
def longItems : List Value → Bool
  | [] => false
  | item :: rest => item.long || longItems rest

/-- Some key or value has no text. -/
def longFields : List (Value × Value) → Bool
  | [] => false
  | (key, value) :: rest => key.long || value.long || longFields rest

end

/-- `bool(value)`. -/
def Value.truthy : Value → Bool
  | .none => false
  | .bool value => value
  | .int value => value ≠ 0
  | .float (.finite value) => value ≠ 0
  | .float _ => true
  | .str text => text ≠ ""
  | .list items => !items.isEmpty
  | .dict fields => !fields.isEmpty
  | .object seen => seen.truthy

/-- `value or other`. -/
def Value.orElse (value other : Value) : Value := if value.truthy then value else other

/-- `value == text`. -/
def Value.isText : Value → String → Bool
  | .str text, other => text = other
  | _, _ => false

/-- `isinstance(value, list)`. -/
def Value.isList : Value → Bool
  | .list _ => true
  | _ => false

/-- The mapping a value is. -/
def Value.dict? : Value → Option Fields
  | .dict fields => some fields
  | _ => .none

/-- `value if isinstance(value, dict) else {}`. -/
def Value.fields (value : Value) : Fields := value.dict?.getD []

/-- The value of a key, where there is one. -/
def get? (fields : Fields) (key : String) : Option Value :=
  (fields.find? fun field => field.1.isText key).map Prod.snd

/-- `fields.get(key, other)`. -/
def getOr (fields : Fields) (key : String) (other : Value) : Value := (get? fields key).getD other

/-- `fields.get(key)`. -/
def get (fields : Fields) (key : String) : Value := getOr fields key .none

/-- The value is an infinite number. -/
def Value.infinite : Value → Bool
  | .float (.infinite _) => true
  | _ => false

/-- `int(value)`. -/
def Value.toInt : Value → Except PyError ℤ
  | .bool value => .ok (if value then 1 else 0)
  | .int value => .ok value
  | .float (.finite value) => .ok (value.num.tdiv value.den)
  | .float .nan => .error .valueError
  | .float (.infinite _) => .error .overflowError
  | .str text => match pyInt text with
    | some value => .ok value
    | .none => .error .valueError
  | .object seen => match seen.int with
    | some value => .ok value
    | .none => .error .typeError
  | _ => .error .typeError

/-- The items a loop over the value sees. -/
def Value.iterate : Value → Except PyError (List Value)
  | .list items => .ok items
  | .dict fields => .ok (fields.map Prod.fst)
  | .str text => .ok (text.toList.map fun c => .str (String.singleton c))
  | .object seen => match seen.items with
    | some count => .ok (List.replicate count .none)
    | .none => .error .typeError
  | _ => .error .typeError

/-- A loop over the value starts. -/
def Value.iterable : Value → Bool
  | .list _ => true
  | .dict _ => true
  | .str _ => true
  | .object seen => seen.items.isSome
  | _ => false

section Text

variable (render : Value → String)

/-- The text of a value. -/
def Value.text : Value → String
  | .none => "None"
  | .bool value => if value then "True" else "False"
  | .int value => toString value
  | .str text => text
  | value => render value

/-- `str(value)`. -/
def Value.toStr (value : Value) : Except PyError String :=
  if value.long then .error .valueError else .ok (value.text render)

variable {render}

/-- A text that is written out leaves the rest of the computation to decide. -/
theorem toStr_bind_returns_iff {β : Type} {value : Value} {next : String → Except PyError β} :
    (∃ out, (value.toStr render >>= next) = .ok out) ↔
      value.long=false ∧ ∃ out, next (value.text render) = .ok out := by
  cases h : value.long <;> simp [Value.toStr,h,bind,Except.bind]

end Text

variable {value other : Value}

theorem toInt_eq_overflow_iff : value.toInt = .error .overflowError ↔ value.infinite=true := by
  unfold Value.toInt Value.infinite
  split <;> (try split) <;> simp_all

theorem iterate_returns_iff : (∃ items, value.iterate = .ok items) ↔ value.iterable=true := by
  unfold Value.iterate Value.iterable
  split <;> (try split) <;> simp_all

theorem toInt_error {why : PyError} (h : value.toInt = .error why) :
    why∈[PyError.typeError,.valueError,.overflowError] := by
  unfold Value.toInt at h
  repeat' split at h
  all_goals cases h
  all_goals simp

theorem not_long_orElse (h : value.long=false) (hother : other.long=false) :
    (value.orElse other).long=false := by
  unfold Value.orElse
  split
  · exact h
  · exact hother

theorem not_long_of_mem {items : List Value} (h : longItems items=false) {item : Value}
    (hitem : item∈items) : item.long=false := by
  induction items with
  | nil => simp at hitem
  | cons first rest ih =>
    simp only [longItems,Bool.or_eq_false_iff] at h
    obtain rfl | hrest := List.mem_cons.mp hitem
    · exact h.1
    · exact ih h.2 hrest

variable {fields : Fields}

section

variable (h : longFields fields=false)

include h

theorem not_long_of_mem_fields {field : Value × Value}
    (hfield : field∈fields) : field.1.long=false ∧ field.2.long=false := by
  induction fields with
  | nil => simp at hfield
  | cons first rest ih =>
    simp only [longFields,Bool.or_eq_false_iff] at h
    obtain rfl | hrest := List.mem_cons.mp hfield
    · exact ⟨h.1.1,h.1.2⟩
    · exact ih h.2 hrest

theorem not_long_getOr (key : String)
    (hother : other.long=false) : (getOr fields key other).long=false := by
  unfold getOr get?
  cases hfind : fields.find? fun field => field.1.isText key with
  | none => simpa using hother
  | some field => exact (not_long_of_mem_fields h (List.mem_of_find?_eq_some hfind)).2

theorem not_long_get (key : String) : (get fields key).long=false :=
  not_long_getOr h key (by simp [Value.long])

end

theorem not_long_dict? (h : value.long=false)
    (hdict : value.dict? = some fields) : longFields fields=false := by
  cases value <;> simp_all [Value.dict?,Value.long]

theorem not_long_fields (h : value.long=false) : longFields value.fields=false := by
  unfold Value.fields
  cases hdict : value.dict? with
  | none => simp [longFields]
  | some fields => exact not_long_dict? h hdict

end PiGwPanel.PyValue
