import Provisioning.Text.Blank
import Provisioning.Text.Decimal
import Provisioning.Text.Split
import Provisioning.Batch.Luhn
import Provisioning.Batch.Rejection
import Provisioning.Url.Basic
/-!
# The fields of a batch

Each check takes the label under which the operator knows the field and its value as written, and
gives the value back or says what was expected.

* `iccid`, `imsi`, `msisdn`, `profileType`, `hssState` : text fields;
* `url` : a web address with a host;
* `quantity` : how many subscribers, at least one.
-/

namespace Provisioning.Batch.Field
open Text

def imsiLength : Nat := 15

def msisdnMaxLength : Nat := 15

def hssStates : List String := ["ACTIVATED", "NOT_ACTIVATED"]

def reject {α : Type} (label value expected : String) : Except Rejection α :=
  .error (.invalidFormat label value expected)

def iccid (label raw : String) : Except Rejection String :=
  let n := raw.utf8ByteSize
  if Decimal.isDigits raw.toList && (n == Luhn.payloadLength || n == Luhn.payloadLength + 1) then
    let expected := (Luhn.checkDigit? (Luhn.payload raw)).getD 0
    if n == Luhn.payloadLength + 1 && raw.toList.getLast? != some (Nat.digitChar expected) then
      reject label raw ("expected Luhn check digit " ++ expected.repr)
    else .ok raw
  else reject label raw "ICCID must be 18 digits, or 19 digits including a Luhn check digit"

def imsi (label raw : String) : Except Rejection String :=
  if Decimal.isDigits raw.toList && raw.utf8ByteSize == imsiLength then .ok raw
  else reject label raw "IMSI must be 15 digits"

def msisdn (label raw : String) : Except Rejection String :=
  if Decimal.isDigits raw.toList && raw.utf8ByteSize ≤ msisdnMaxLength then .ok raw
  else reject label raw "MSISDN must be 1 to 15 digits"

def isProfileType : List Char → Bool
  | [] => false
  | c :: r => c.isUpper && r.all fun c => c.isUpper || c.isDigit || c == '_'

def profileType (label value : String) : Except Rejection String :=
  if isProfileType value.toList then .ok value
  else reject label value "profile type must be upper-case letters, digits and underscores"

def hssState (label value : String) : Except Rejection String :=
  if hssStates.contains value then .ok value
  else reject label value ("must be one of " ++ ", ".intercalate hssStates)

def isWeb (u : Url) : Bool :=
  u.host.isSome && ["http".toList, "https".toList].contains u.scheme

def url (label value : String) : Except Rejection Url :=
  match Url.parse value with
  | .error e => reject label value ("unparseable URL: " ++ e.message)
  | .ok u => if isWeb u then .ok u else reject label value "URL must be http or https with a host"

/-- Blanks around the number and one plus sign in front of it do not count. -/
def quantity (label raw : String) : Except Rejection Nat :=
  match Decimal.unsigned? Decimal.countLimit (trim raw.toList) with
  | some (n + 1) => .ok (n + 1)
  | _ => reject label raw "quantity must be a positive integer"

end Provisioning.Batch.Field
