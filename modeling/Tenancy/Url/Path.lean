import Tenancy.Url.Basic

/-!
# Paths

A path is read segment by segment: a dot stands for the directory itself, two dots for the one above
it. In the file system a drive, a letter and a colon, is never left, and the bar that some write for
the colon is replaced in a path that begins with a drive.
-/

namespace Tenancy.Url

/-- Whether a segment means the directory itself. -/
def isDot (segment : List Char) : Bool :=
  segment = ['.'] || segment.map Char.toLower = ['%', '2', 'e']

/-- Whether a segment means the directory above. -/
def isDoubleDot (segment : List Char) : Bool :=
  [['.', '.'], ['.', '%', '2', 'e'], ['%', '2', 'e', '.'], ['%', '2', 'e', '%', '2', 'e']].contains
    (segment.map Char.toLower)

/-- Whether a segment is a drive. -/
def isDrive : List Char → Bool
  | [c, d] => c.isAlpha && (d = ':' || d = '|')
  | _ => false

/-- The directory above; in the file system a drive has none. -/
def above (inFiles : Bool) (parts : List (List Char)) : List (List Char) :=
  if inFiles && (parts.getLast?.map isDrive).getD false then parts else parts.dropLast

/-- A segment with the bar of a drive replaced. -/
def withColon (segment : List Char) : List Char :=
  if isDrive segment then segment.take 1 ++ [':'] else segment

/-- Follows segments one after the other. A dot segment at the end leaves an empty one. -/
def follow (inFiles : Bool) : List (List Char) → List (List Char) → List (List Char)
  | done, [] => done
  | done, s :: rest =>
    if isDoubleDot s then
      follow inFiles (above inFiles done ++ (if rest.isEmpty then [[]] else [])) rest
    else if isDot s then follow inFiles (if rest.isEmpty then done ++ [[]] else done) rest
    else follow inFiles (done ++ [if inFiles && done.isEmpty then withColon s else s]) rest

/-- A slash, or for special schemes a backslash. -/
def isSlash (special : Bool) (c : Char) : Bool := c = '/' || (special && c = '\\')

/-- Cuts a text at its slashes. -/
def splitSlashes (special : Bool) (cs : List Char) : List (List Char) :=
  (cs.map fun c => if isSlash special c then '/' else c).splitOn '/'

/-- Whether segments begin with a drive. -/
def onDrive (parts : List (List Char)) : Bool := (parts.head?.map isDrive).getD false

/-- A path in the file system has no empty segments at its front. -/
def trimFront (parts : List (List Char)) : List (List Char) :=
  let kept := parts.dropWhile (·.isEmpty)
  if kept.isEmpty then [[]] else kept

end Tenancy.Url
