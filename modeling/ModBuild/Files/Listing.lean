import ModBuild.Files.Tree

/-!
# `ModBuild.Files.Listing`: a tree from top to bottom

The content of a directory by name, each directory followed by its own content.

* `FileTree.below` is what stands below a place.
* `FileTree.changed` are the places where two trees differ.
-/

set_option autoImplicit false

namespace ModBuild.FileTree

/-- A place comes before another on the way from top to bottom: a directory before its content, and
names in order. -/
def comesBefore : Place → Place → Bool
  | [], _ => true
  | _ :: _, [] => false
  | a :: as, b :: bs => a < b || (a = b && comesBefore as bs)

/-- What stands below a place, with the names from there on, in order. -/
def below (tree : FileTree) (place : Place) : List (Place × Entry) :=
  let inside := tree.entries.filterMap fun (p, e) =>
    if place.isPrefixOf p && p ≠ place then some (p.drop place.length, e) else none
  inside.mergeSort (fun a b => comesBefore a.1 b.1)

/-- The places where something else stands after than before, from top to bottom. -/
def changed (before after : FileTree) : List Place :=
  let places := (before.entries ++ after.entries).map (·.1)
  (places.eraseDups.filter fun p => before.entry? p ≠ after.entry? p).mergeSort comesBefore

end ModBuild.FileTree
