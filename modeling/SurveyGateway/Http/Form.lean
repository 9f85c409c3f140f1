import SurveyGateway.Text.Hex
import SurveyGateway.Text.Split
import SurveyGateway.Text.Utf8

/-!
# Forms

A form is a list of fields, each a name and a value. In its written form `&` separates the fields and `=` a name
from its value; a plus stands for a blank, and a percent sign with two hexadecimal digits for a byte.
-/

namespace SurveyGateway.Http.Form

/-- The bytes that some written bytes stand for. A percent sign without two digits stands for itself. -/
def decode : List UInt8 → List UInt8
  | [] => []
  | 43 :: bs => 32 :: decode bs
  | 37 :: high :: low :: bs =>
    match Text.hexValue? high, Text.hexValue? low with
    | some h, some l => (16 * h + l).toUInt8 :: decode bs
    | _, _ => 37 :: decode (high :: low :: bs)
  | b :: bs => b :: decode bs

/-- The text that some written bytes stand for. -/
def decodeText (bytes : List UInt8) : String := Text.lossyText (decode bytes)

/-- A field as it is written; a field without `=` has an empty value. -/
def readField (bytes : List UInt8) : String × String :=
  let (name, value) := Text.cut 61 bytes
  (decodeText name, decodeText (value.getD []))

/-- The fields of a written form. Nothing between two `&` is no field. -/
def fields (bytes : List UInt8) : List (String × String) :=
  ((Text.split 38 bytes).filter fun piece => !piece.isEmpty).map readField

/-- The values of the fields of one name. -/
def values (name : String) (bytes : List UInt8) : List String :=
  ((fields bytes).filter fun field => field.1 == name).map (·.2)

end SurveyGateway.Http.Form
