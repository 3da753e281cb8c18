import ModBuild.Text.Ranges
import ModBuild.Url.Percent

/-!
# `ModBuild.Url.Path`: the segments of an address

The path of an address is a list of segments between slashes. Two dots go back to the segment
before, except where that is the letter of a drive, and one dot stays.
-/

set_option autoImplicit false

namespace ModBuild.Url

/-- Slashes of either direction separate segments. -/
def isSlash (c : Char) : Bool :=
  c = '/' || c = '\\'

/-- The segment without percent notation of its dots. -/
def plainDots : List Char → List Char
  | '%' :: '2' :: 'e' :: rest | '%' :: '2' :: 'E' :: rest => '.' :: plainDots rest
  | c :: rest => c :: plainDots rest
  | [] => []

/-- A letter and a colon or a bar. -/
def isDrive : List Char → Bool
  | [c, mark] => c.isAlpha && (mark = ':' || mark = '|')
  | _ => false

/-- The segments up to a place, without the last one. The letter of a drive stays. -/
def withoutLast (done : List (List Char)) : List (List Char) :=
  if done.getLast?.any isDrive then done else done.dropLast

/-- The segments that are reached. `done` holds those up to here. -/
def reached (done : List (List Char)) : List (List Char) → List (List Char)
  | [] => done
  | [last] =>
    if plainDots last = ['.', '.'] then withoutLast done ++ [[]]
    else if plainDots last = ['.'] then done ++ [[]]
    else done ++ [last]
  | segment :: rest =>
    if plainDots segment = ['.', '.'] then reached (withoutLast done) rest
    else if plainDots segment = ['.'] then reached done rest
    else reached (done ++ [segment]) rest

/-- The path of a text that starts behind the host. -/
def pathOf (s : List Char) : String :=
  let s := match s with
    | c :: rest => if isSlash c then rest else s
    | [] => []
  let segments := (Text.cutAt isSlash s).map (percentEncode pathSet)
  String.ofList ((reached [] segments).flatMap ('/' :: ·))

end ModBuild.Url
