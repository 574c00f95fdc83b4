import ArithQuiz.Binary64.Basic

/-!
# JSON values

A JSON number is kept in the class its text gives it: a non-negative integer
below `2^64`, a negative integer from `-2^63`, or else a double. An object
holds its members in order. Read from text, the members are sorted by key,
each key once (the last one written wins), and typed decoding visits them in
that order; written as text, they appear in the order held.
-/

set_option autoImplicit false

namespace ArithQuiz.Json

/-- A JSON number, classified by its text. -/
inductive Number
  /-- An integer `0 ≤ n < 2^64` written without point or exponent. -/
  | nat (n : Nat)
  /-- An integer `-2^63 ≤ n < 0` written without point or exponent. -/
  | negInt (n : Int)
  /-- Any other number, rounded to a double. -/
  | float (x : Binary64)
deriving DecidableEq, Inhabited

/-- A JSON value. -/
inductive Value
  | null
  | bool (b : Bool)
  | number (n : Number)
  | string (s : String)
  | array (items : List Value)
  /-- Members in order. -/
  | object (members : List (String × Value))
deriving Inhabited

namespace Value

/-- Inserts a member into a sorted member list, replacing an equal key. -/
def insertMember (k : String) (v : Value) : List (String × Value) → List (String × Value)
  | [] => [(k, v)]
  | (k', v') :: rest =>
    if k < k' then (k, v) :: (k', v') :: rest
    else if k = k' then (k, v) :: rest
    else (k', v') :: insertMember k v rest

/-- The object of some members, sorted by key, the last of equal keys kept. -/
def ofMembers (ms : List (String × Value)) : Value :=
  object (ms.foldl (fun acc (k, v) => insertMember k v acc) [])

/-- The member of an object under a key. -/
def get? (v : Value) (k : String) : Option Value :=
  match v with
  | object ms => ms.lookup k
  | _ => none

end Value

end ArithQuiz.Json
