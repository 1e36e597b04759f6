import Bindery.FileTree.Basic

/-!
# What changed in a file tree

The nodes of a tree with their places (`entries`), and those of them that another tree lacks or
has otherwise (`changes`). A directory stands before what it holds, so making the changes in
their order finds every directory there.
-/

namespace Bindery.FileTree

mutual

/-- All nodes, each with its names from the top. -/
def entries : FileTree → List (List Text × FileTree)
  | .file content => [([], .file content)]
  | .dir children => ([], .dir children) :: childEntries children

def childEntries : List (Text × FileTree) → List (List Text × FileTree)
  | [] => []
  | (name, child) :: rest =>
    child.entries.map (fun e => (name :: e.1, e.2)) ++ childEntries rest

end

/-- Whether two nodes are the same apart from what directories hold. -/
def isLike : FileTree → FileTree → Bool
  | .file content, .file content' => content == content'
  | .dir _, .dir _ => true
  | _, _ => false

/-- The nodes of the second tree that the first one lacks or has otherwise. -/
def changes (before after : FileTree) : List (List Text × FileTree) :=
  after.entries.filter fun e => !(before.get? e.1).any (isLike e.2)

end Bindery.FileTree
