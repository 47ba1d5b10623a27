/-
This file holds the ways in which a call on the store can fail. All but one are outcomes that
the caller can act on; a store that is unavailable is a fault of the server.
-/

import Entitlement.ModelError

namespace Entitlement

/-- A failed call, with a text that says what was wrong. -/
inductive StoreError where
  | alreadyExists (what : String)
  | noSuchObject (what : String)
  | grantDenied (why : String)
  | invalidInput (why : String)
  | unsupported (why : String)
  | unavailable (why : String)
deriving DecidableEq, Repr

namespace StoreError

def message : StoreError → String
  | alreadyExists what => "Already exists: " ++ what
  | noSuchObject what => "No such object: " ++ what
  | grantDenied why => "Grant denied: " ++ why
  | invalidInput why => "Invalid input: " ++ why
  | unsupported why => "Unsupported: " ++ why
  | unavailable why => "Store unavailable: " ++ why

/-- The code by which other programs know the kind of failure. -/
def code : StoreError → String
  | alreadyExists _ => "ALREADY_EXISTS"
  | noSuchObject _ => "NO_SUCH_OBJECT"
  | grantDenied _ => "GRANT_DENIED"
  | invalidInput _ => "INVALID_INPUT"
  | unsupported _ => "UNSUPPORTED"
  | unavailable _ => "STORE_UNAVAILABLE"

/-- Whether the fault lies with the server. -/
def isServerFault : StoreError → Bool
  | unavailable _ => true
  | _ => false

def isRecoverable (error : StoreError) : Bool :=
  !error.isServerFault

/-- A path that cannot be stored is unsupported; all else that the model refuses is invalid. -/
def ofModel (error : ModelError) : StoreError :=
  if error.isUnsupportedPath then unsupported error.message else invalidInput error.message

/-- The failure of a part of the model as a failure of the call. -/
def lift {Value : Type} (result : Except ModelError Value) : Except StoreError Value :=
  result.mapError ofModel

end StoreError

end Entitlement
