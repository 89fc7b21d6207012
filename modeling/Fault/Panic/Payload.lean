import Fault.Value.Plain
import Fault.ErrorId

/-!
# Panic payloads

A panic carries a payload of any type. Text, numbers, truth values, characters and errors can be
put into words; every other payload is opaque to a reader.
-/

namespace Fault

open Fault.Number (Floating Numeral readFloating?)

/-- What a panic carries. -/
inductive Payload where
  /-- A text that is part of the program. -/
  | literal (content : String)
  /-- A text that was put together. -/
  | text (content : String)
  | integer (type : IntegerType) (value : Int)
  | single (value : Floating)
  | double (value : Floating)
  | boolean (value : Bool)
  | character (value : Char)
  /-- A handle to an error of any type. -/
  | shared (error : ErrorId)
  /-- An occurrence of a definition. -/
  | occurrence (error : ErrorId)
  /-- A value of a type without a written form: the name of the type and the data in it. -/
  | other (typeName content : String)
  deriving DecidableEq

namespace Payload

/-- Read a payload of a type of numbers, truth values or characters from text. -/
def read? (typeName text : String) : Option Payload :=
  match typeName, text.toList with
  | "f32", digits => (readFloating? .single digits).map .single
  | "f64", digits => (readFloating? .double digits).map .double
  | "bool", _ => some (.boolean (text == "true"))
  | "char", [letter] => some (.character letter)
  | name, _ =>
      (IntegerType.named.lookup name).bind fun type =>
        (type.read? text).map fun value => .integer type value

/-- The error that a payload is. -/
def error? : Payload → Option ErrorId
  | .shared error => some error
  | .occurrence error => some error
  | _ => none

/-- A payload in words, given the messages of errors. -/
def describe (message : ErrorId → String) : Payload → String
  | .literal content => content
  | .text content => content
  | .integer _ value => Text.showInt value
  | .single value => String.ofList (Numeral.plain.write .single value)
  | .double value => Numeral.plain.text value
  | .boolean value => if value then "true" else "false"
  | .character value => String.singleton value
  | .shared error => message error
  | .occurrence error => message error
  | .other _ _ => "Box<dyn Any>"

/-- The text of a payload that is a literal. -/
def literal? : Payload → Option String
  | .literal content => some content
  | _ => none

/-- The text of a payload that was put together. -/
def text? : Payload → Option String
  | .text content => some content
  | _ => none

/-- The integer of a payload of a type. -/
def integer? (type : IntegerType) : Payload → Option Int
  | .integer found value => if found = type then some value else none
  | _ => none

/-- The occurrence that a payload is. -/
def occurrence? : Payload → Option ErrorId
  | .occurrence error => some error
  | _ => none

/-- The data of a payload of another type. -/
def other? (typeName : String) : Payload → Option String
  | .other found content => if found = typeName then some content else none
  | _ => none

end Payload

end Fault
