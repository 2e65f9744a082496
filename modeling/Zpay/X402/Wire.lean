import Mathlib.Data.Rat.Defs
import Zpay.Core.Types

/-!
# x402 wire types

The request and response bodies of the official facilitator routes, with JSON
values where the standard leaves a field open.  A JSON object is its members in
key order, which is how the source's ordered maps compare, look up and insert.
-/

namespace Zpay.X402

/-! ## JSON values -/

/-- `serde_json::Number`; a float is the rational its digits were rounded to. -/
inductive Number
  | posInt (value : UInt64)
  | negInt (value : Int)
  | float (value : ℚ)
  deriving DecidableEq, Repr

mutual

/-- `serde_json::Value`. -/
inductive Value
  | null
  | bool (value : Bool)
  | number (value : Number)
  | string (value : String)
  | array (items : Items)
  | object (fields : Fields)

/-- The items of an array. -/
inductive Items
  | nil
  | cons (item : Value) (rest : Items)

/-- The members of an object, in key order. -/
inductive Fields
  | nil
  | cons (key : String) (value : Value) (rest : Fields)

end

deriving instance DecidableEq for Value, Items, Fields

def Value.asStr : Value → Option String
  | .string value => some value
  | .null | .bool _ | .number _ | .array _ | .object _ => none

def Value.asObject : Value → Option Fields
  | .object fields => some fields
  | .null | .bool _ | .number _ | .string _ | .array _ => none

namespace Fields

def get : Fields → String → Option Value
  | .nil, _ => none
  | .cons key value rest, wanted => if key = wanted then some value else rest.get wanted

/-- `BTreeMap::insert`. -/
def insert (fields : Fields) (key : String) (value : Value) : Fields :=
  match fields with
  | .nil => .cons key value .nil
  | .cons held kept rest =>
      if held = key then .cons key value rest
      else if key < held then .cons key value (.cons held kept rest)
      else .cons held kept (rest.insert key value)

def ofList : List (String × Value) → Fields
  | [] => .nil
  | (key, value) :: rest => (ofList rest).insert key value

theorem get_insert_self : ∀ (fields : Fields) (key : String) (value : Value),
    (fields.insert key value).get key = some value
  | .nil, key, value => if_pos rfl
  | .cons held kept rest, key, value => by
      unfold insert
      split
      · exact if_pos rfl
      · next hheld =>
          split
          · exact if_pos rfl
          · unfold get
            rw [if_neg hheld]
            exact get_insert_self rest key value

end Fields

/-! ## Requests -/

/-- `X402_VERSION`. -/
def x402Version : UInt32 := 2

structure PaymentRequirements where
  scheme : String
  network : String
  amount : String
  asset : String
  payTo : String
  maxTimeoutSeconds : UInt64
  extra : Fields
  deriving DecidableEq

structure ResourceInfo where
  url : String
  description : Option String
  mimeType : Option String
  serviceName : Option String
  tags : List String
  iconUrl : Option String
  deriving DecidableEq, Repr

structure PaymentPayload where
  x402Version : UInt32
  resource : ResourceInfo
  accepted : PaymentRequirements
  payload : Value
  extensions : Fields
  deriving DecidableEq

structure FacilitatorRequest where
  x402Version : UInt32
  paymentPayload : PaymentPayload
  paymentRequirements : PaymentRequirements
  deriving DecidableEq

/-! ## Responses -/

structure VerifyResponse where
  isValid : Bool
  invalidReason : Option String
  payer : Option String
  extra : Fields
  deriving DecidableEq

structure SettleResponse where
  success : Bool
  errorReason : Option String
  payer : Option String
  transaction : Option String
  network : String
  amount : String
  extensions : Fields
  deriving DecidableEq

end Zpay.X402
