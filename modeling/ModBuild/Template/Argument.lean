import ModBuild.Text.Casing
import ModBuild.Text.Decimal
import ModBuild.Text.Quoted

/-!
# `ModBuild.Template.Argument`: what is put into a format

An argument is a text, a whole number of 64 bits or a truth value. On a command line all arguments
are texts, and `Argument.infer` decides what a text is meant as.
-/

set_option autoImplicit false

namespace ModBuild.Template

/-- A value for a conversion of a format. -/
inductive Argument where
  | text (value : String)
  | int (value : Int64)
  | bool (value : Bool)
  deriving DecidableEq

namespace Argument

/-- A number if the text reads as one, else a truth value, else the text. -/
def infer (text : String) : Argument :=
  match Text.signedInteger? text.toList with
  | some value => int value
  | none =>
    if text = "true" then bool true
    else if text = "false" then bool false
    else .text text

/-- The text of a truth value. -/
def truthText (value : Bool) : String :=
  if value then "true" else "false"

/-- The text of an argument. -/
def display : Argument → String
  | text value => value
  | int value => toString value.toInt
  | bool value => truthText value

/-- An argument with its kind, as an error names it. -/
def debug : Argument → String
  | text value => "Str(" ++ Text.quoted value ++ ")"
  | int value => "Int(" ++ toString value.toInt ++ ")"
  | bool value => "Bool(" ++ truthText value ++ ")"

end Argument

end ModBuild.Template
