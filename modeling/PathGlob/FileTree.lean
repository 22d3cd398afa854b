import PathGlob.Text.Pieces

/-!
# PathGlob.FileTree

The files below a directory, and reading one of them by a path. A path is followed piece by piece:
`.` stays, `..` goes up, and every piece but the last has to be a directory. Nothing is known about
what is outside the directory.
-/

namespace PathGlob

/-- Why a file cannot be read. -/
inductive FileFault
  | notFound
  | notDirectory
  | isDirectory
  | nameTooLong
  | permissionDenied
  | notText
  /-- A fault with its own description. -/
  | other (description : Text)
  deriving DecidableEq, Repr

def FileFault.message : FileFault → Text
  | notFound => "No such file or directory (os error 2)".toList
  | notDirectory => "Not a directory (os error 20)".toList
  | isDirectory => "Is a directory (os error 21)".toList
  | nameTooLong => "File name too long (os error 36)".toList
  | permissionDenied => "Permission denied (os error 13)".toList
  | notText => "stream did not contain valid UTF-8".toList
  | other description => description

/-- What a name stands for. -/
inductive FileNode
  | file (contents : List UInt8)
  | directory
  deriving DecidableEq, Repr

/-- Files and directories by their paths, whose pieces are the names on the way. -/
abbrev FileTree := List (List Text × FileNode)

namespace FileTree

/-- The node at a place; the directory itself is at the empty path, and whatever has something
below it is a directory. -/
def node? (tree : FileTree) (place : List Text) : Option FileNode :=
  if place.isEmpty then some .directory
  else
    match tree.find? (·.1 = place) with
    | some entry => some entry.2
    | none => if tree.any (fun entry => place.isPrefixOf entry.1) then some .directory else none

/-- Follows the pieces of a path from a directory. The last piece is empty if a slash ends the
path, which then has to lead to a directory. -/
def follow (tree : FileTree) (place : List Text) : List Text → Except FileFault FileNode
  | [] =>
    match tree.node? place with
    | some node => .ok node
    | none => .error .notFound
  | piece :: more =>
    match tree.node? place with
    | none => .error .notFound
    | some (.file _) => .error .notDirectory
    | some .directory =>
      if piece.byteLength > 255 then .error .nameTooLong
      else if piece.isEmpty || piece = ['.'] then tree.follow place more
      else if piece = ['.', '.'] then
        if place.isEmpty then
          if more.all (· = ['.', '.']) then .ok .directory else .error .notFound
        else tree.follow place.dropLast more
      else tree.follow (place ++ [piece]) more

/-- The contents of the file at a path. -/
def read (tree : FileTree) (path : Text) : Except FileFault (List UInt8) :=
  let pieces := Text.pieces '/' path
  let outcome : Except FileFault FileNode :=
    match path with
    | '/' :: _ => if pieces.all (·.isEmpty) then .ok .directory else .error .notFound
    | _ => tree.follow [] pieces
  match outcome with
  | .error fault => .error fault
  | .ok .directory => .error .isDirectory
  | .ok (.file contents) => .ok contents

end FileTree

end PathGlob
