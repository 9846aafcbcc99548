import DocComment.Fault
import DocComment.Path

/-! A working folder: files by path, and the folders that exist because files
lie in them. -/

namespace DocComment

abbrev Folder := List (Path × List UInt8)

namespace Folder

/-- Whether a path names a folder: the working folder itself, one above it, the
root, or one that a file lies in. -/
def isFolder (folder : Folder) (p : Path) : Bool :=
  p.segments.all (· == ['.', '.']) ||
    folder.any fun file =>
      file.1.root == p.root && p.segments.isPrefixOf file.1.segments && file.1 != p

/-- Whether a path goes on below a file. -/
def isBelowFile (folder : Folder) (p : Path) : Bool :=
  folder.any fun file =>
    file.1.root == p.root && file.1.segments.isPrefixOf p.segments && file.1 != p

def read (folder : Folder) (p : Path) : Except FileTrouble (List UInt8) :=
  match folder.lookup p with
  | some bytes => .ok bytes
  | none =>
    if isFolder folder p then .error .isDirectory
    else if isBelowFile folder p then .error .notDirectory
    else .error .missing

/-- Why a file cannot be written, if it cannot. -/
def writeTrouble? (folder : Folder) (p : Path) : Option FileTrouble :=
  if isFolder folder p then some .isDirectory
  else if isBelowFile folder p then some .notDirectory
  else if isFolder folder p.parent then none
  else some .missing

end Folder

end DocComment
