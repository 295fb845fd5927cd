import SocketDocs.Decimal.Double
import SocketDocs.Keyed

/-!
# JSON values

Integers and binary floating-point numbers are kept apart: `1` and `1.0` are different values.
The members of an object read from text ascend by key.
-/

namespace SocketDocs.Json

inductive Number where
  | int (value : Int)
  | double (value : Double)
  deriving DecidableEq, Repr

inductive Value where
  | null
  | bool (value : Bool)
  | number (value : Number)
  | string (value : String)
  | array (items : List Value)
  | object (members : List (String × Value))
  deriving Inhabited, Repr

namespace Number

/-- Equality of numbers; the two zeros among the doubles are equal. -/
def equal : Number → Number → Bool
  | .int a, .int b => a == b
  | .double a, .double b => a.equal b
  | _, _ => false

end Number

namespace Value

def ofInt (value : Int) : Value := .number (.int value)

def ofNat (value : Nat) : Value := .number (.int value)

def ofOption {α : Type} (encode : α → Value) : Option α → Value
  | some a => encode a
  | none => .null

def strings (texts : List String) : Value := .array (texts.map .string)

mutual
/-- Equality of values, given that of numbers. -/
def equalBy (numbers : Number → Number → Bool) : Value → Value → Bool
  | .null, .null => true
  | .bool a, .bool b => a == b
  | .number a, .number b => numbers a b
  | .string a, .string b => a == b
  | .array a, .array b => equalItemsBy numbers a b
  | .object a, .object b => equalMembersBy numbers a b
  | _, _ => false

def equalItemsBy (numbers : Number → Number → Bool) : List Value → List Value → Bool
  | [], [] => true
  | a :: as, b :: bs => equalBy numbers a b && equalItemsBy numbers as bs
  | _, _ => false

def equalMembersBy (numbers : Number → Number → Bool) :
    List (String × Value) → List (String × Value) → Bool
  | [], [] => true
  | (k, a) :: as, (l, b) :: bs => k == l && equalBy numbers a b && equalMembersBy numbers as bs
  | _, _ => false
end

def equal : Value → Value → Bool :=
  equalBy Number.equal

mutual
theorem equalBy_iff : ∀ a b : Value, equalBy (· == ·) a b = true ↔ a = b
  | .null, b | .bool _, b | .number _, b | .string _, b => by cases b <;> simp [equalBy]
  | .array as, b => by cases b <;> simp [equalBy, equalItemsBy_iff as]
  | .object as, b => by cases b <;> simp [equalBy, equalMembersBy_iff as]

theorem equalItemsBy_iff : ∀ as bs : List Value, equalItemsBy (· == ·) as bs = true ↔ as = bs
  | [], bs => by cases bs <;> simp [equalItemsBy]
  | a :: as, bs => by cases bs <;> simp [equalItemsBy, equalBy_iff a, equalItemsBy_iff as]

theorem equalMembersBy_iff :
    ∀ as bs : List (String × Value), equalMembersBy (· == ·) as bs = true ↔ as = bs
  | [], bs => by cases bs <;> simp [equalMembersBy]
  | (k, a) :: as, bs => by
    cases bs <;> simp [equalMembersBy, Prod.ext_iff, equalBy_iff a, equalMembersBy_iff as]
end

instance : DecidableEq Value := fun a b => decidable_of_iff _ (equalBy_iff a b)

def member? (key : String) : Value → Option Value
  | .object members => members.lookup key
  | _ => none

end Value

end SocketDocs.Json
