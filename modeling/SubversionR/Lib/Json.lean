import Mathlib

/-!
# JSON values

The values two processes exchange, after parsing and before validation.  Numbers are the integers
(the messages modelled here carry no others), texts are lists of characters.  A *record* is
anything with own keys, which in JavaScript includes arrays.
-/

namespace JsonValues

inductive Json where
  | null
  | bool (b : Bool)
  | int (n : Int)
  | str (text : List Char)
  | arr (items : List Json)
  | obj (fields : List (String × Json))

namespace Json

instance : Inhabited Json := ⟨null⟩

/-- The property `key` of a value; `none` is JavaScript's `undefined`. -/
def prop : Json → String → Option Json
  | obj fields, key => fields.lookup key
  | _, _ => none

/-- `Object.keys` of a record, `none` on a value that is not one. -/
def ownKeys? : Json → Option (List String)
  | obj fields => some (fields.map Prod.fst)
  | arr items => some ((List.range items.length).map toString)
  | _ => none

/-- A value that may be missing, as `null`. -/
def nullable {α : Type} (encode : α → Json) : Option α → Json
  | none => null
  | some a => encode a

end Json

end JsonValues
