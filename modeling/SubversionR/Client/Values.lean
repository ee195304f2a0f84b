import SubversionR.Text
import SubversionR.Lib.Except
import SubversionR.Lib.Json

/-!
# Values — the checks the extension's message validators share

Each RPC client of the extension checks the messages it sends and receives with the same small
functions; they differ in the error they throw, which is the parameter `invalid` here (the
argument is the path of the offending field).  A missing property is `none`.

Every check has an `Accepts` lemma: what it returns on the encoding of a value, and exactly when.
-/

namespace SubversionR

open JsonValues Fallible

/-- The error a validator throws: fixed texts and the path of the field. -/
structure RpcError where
  code : Text
  category : Text
  messageKey : Text
  field : Text
deriving DecidableEq

/-- `Number.isSafeInteger` on an integer. -/
def isSafeInteger (n : Int) : Bool := decide (-(2 ^ 53 - 1) ≤ n) && decide (n ≤ 2 ^ 53 - 1)

/-- `isRepositoryRelativePath`. -/
def isRepositoryRelativePath (path : Text) : Bool :=
  if path = "." then true
  else
    let normalized := path.forwardSlashes
    if normalized.head? = some '/' ∨ ':' ∈ normalized ∨ '\x00' ∈ normalized then false
    else (normalized.splitOn '/').all fun part =>
      decide (part.length > 0) && decide (part ≠ ".") && decide (part ≠ "..")

/-- What `requireResponsePath` and `requireRequestPath` accept. -/
def isMessagePath (path : Text) : Bool := path.nonBlankJs && isRepositoryRelativePath path

/-- The field path of an item of a list. -/
def Text.item (field : Text) (index : Nat) : Text := field ++ ("." : Text) ++
    (toString index).toList

/-- The field path of a property of a record. -/
def Text.dot (field : Text) (key : String) : Text := field ++ ("." : Text) ++ key.toList

section Checks

variable (invalid : Text → RpcError)

def requireRecord (value : Option Json) (field : Text) : Except RpcError Json :=
  match value with
  | some record => if record.ownKeys?.isSome then pure record else throw (invalid field)
  | none => throw (invalid field)

/-- Throw at the first own key that is not expected; `top` names the message itself, whose keys
are reported without it. -/
def requireExactKeys (top : Text) (value : Json) (field : Text) (expectedKeys : List String) :
    Except RpcError Unit :=
  checkItems (fun key => decide (key ∈ expectedKeys))
    (fun _ key => invalid (if field = top then key.toList else field.dot key)) 0
    (value.ownKeys?.getD [])

def requireArray (value : Option Json) (field : Text) : Except RpcError (List Json) :=
  match value with
  | some (.arr items) => pure items
  | _ => throw (invalid field)

def requireString (value : Option Json) (field : Text) : Except RpcError Text :=
  match value with
  | some (.str text) => if Text.nonBlankJs text then pure text else throw (invalid field)
  | _ => throw (invalid field)

def requirePath (value : Option Json) (field : Text) : Except RpcError Text := do
  let path ← requireString invalid value field
  require (isRepositoryRelativePath path = true) (invalid field)
  pure path

def requireNullableString (value : Option Json) (field : Text) : Except RpcError (Option Text) :=
  match value with
  | some .null => pure none
  | _ => do
    let text ← requireString invalid value field
    pure (some text)

def requireInteger (value : Option Json) (field : Text) : Except RpcError Int :=
  match value with
  | some (.int n) => if isSafeInteger n then pure n else throw (invalid field)
  | _ => throw (invalid field)

def requireNonNegativeInteger (value : Option Json) (field : Text) : Except RpcError Nat :=
  match value with
  | some (.int n) => if isSafeInteger n ∧ 0 ≤ n then pure n.toNat else throw (invalid field)
  | _ => throw (invalid field)

def requireBoolean (value : Option Json) (field : Text) : Except RpcError Bool :=
  match value with
  | some (.bool b) => pure b
  | _ => throw (invalid field)

end Checks

/-! ## What the checks accept -/

section Accepted

variable {invalid : Text → RpcError} {field : Text}

theorem isSafeInteger_natCast {n : Nat} : isSafeInteger n = true ↔ n < 2 ^ 53 := by
  unfold isSafeInteger
  rw [Bool.and_eq_true, decide_eq_true_eq, decide_eq_true_eq]
  omega

theorem requireRecord_accepts {fields : List (String × Json)} :
    Accepts (requireRecord invalid (some (.obj fields)) field) (.obj fields) True :=
  Accepts.pure

theorem requireExactKeys_accepts {top : Text} {fields : List (String × Json)}
    {expectedKeys : List String} (h : fields.map Prod.fst ⊆ expectedKeys) :
    Accepts (requireExactKeys invalid top (.obj fields) field expectedKeys) () True := by
  refine (Accepts.check 0 (fields.map Prod.fst)).congr (iff_of_true ?_ trivial)
  intro _ hkey
  exact decide_eq_true (h hkey)

theorem requireArray_accepts {items : List Json} :
    Accepts (requireArray invalid (some (.arr items)) field) items True :=
  Accepts.pure

theorem requireString_accepts {text : Text} :
    Accepts (requireString invalid (some (.str text)) field) text (text.nonBlankJs = true) :=
  Accepts.ite

theorem requirePath_accepts {path : Text} :
    Accepts (requirePath invalid (some (.str path)) field) path (isMessagePath path = true) := by
  refine Accepts.congr
    (.bind requireString_accepts (.bind Accepts.require Accepts.pure)) ?_
  simp [isMessagePath]

theorem requireNullableString_accepts {text : Option Text} :
    Accepts (requireNullableString invalid (some (Json.nullable Json.str text)) field) text
      (∀ t ∈ text, t.nonBlankJs = true) := by
  cases text with
  | none => exact Accepts.pure.congr (by simp)
  | some t =>
    refine Accepts.congr (.bind requireString_accepts Accepts.pure) ?_
    simp

theorem requireInteger_accepts {n : Int} :
    Accepts (requireInteger invalid (some (.int n)) field) n (isSafeInteger n = true) :=
  Accepts.ite

theorem requireNonNegativeInteger_accepts {n : Nat} :
    Accepts (requireNonNegativeInteger invalid (some (.int n)) field) n (n < 2 ^ 53) := by
  have h : Accepts (requireNonNegativeInteger invalid (some (.int n)) field) (n : Int).toNat _ :=
    Accepts.ite
  refine h.congr ?_
  rw [isSafeInteger_natCast]
  simp

theorem requireBoolean_accepts {b : Bool} :
    Accepts (requireBoolean invalid (some (.bool b)) field) b True :=
  Accepts.pure

end Accepted

end SubversionR
