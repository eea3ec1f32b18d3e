import ContractBuild.Text.Basic

/-!
# Paths

Paths are texts with `/` between their segments, and nothing here looks at a disk. `Path.normalize` drops empty segments
and dots, and lets each double dot take back the segment before it; at the root it takes back nothing, and at the start of
a relative path it stays. Exactly two slashes at the start are kept, and more become one. `Path.relative` leads from one
absolute path to another.
-/

namespace ContractBuild.Path

/-- The slash between segments. -/
def slash : CodePoint := '/'

/-- Whether a path starts at the root. -/
def isAbsolute (p : Text) : Bool := p.head? = some slash

/-- The path `p`, taken from `base` unless it is absolute. -/
def join (base p : Text) : Text :=
  if isAbsolute p then p
  else if base.isEmpty || base.getLast? = some slash then base ++ p
  else base ++ "/" ++ p

/-- The parts between slashes that name something. -/
def parts (p : Text) : List Text := (p.splitOn slash).filter (· ≠ [])

/-- The segments behind `done`, the segments so far with the last one first. -/
def resolveFrom (rooted : Bool) (done : List Text) : List Text → List Text
  | [] => done.reverse
  | s :: rest =>
    if s = [] || s = "." then resolveFrom rooted done rest
    else if s = ".." then
      match done with
      | [] => if rooted then resolveFrom rooted [] rest else resolveFrom rooted [s] rest
      | d :: done' => if d = ".." then resolveFrom rooted (s :: done) rest else resolveFrom rooted done' rest
    else resolveFrom rooted (s :: done) rest

/-- The segments of a path without empty ones and dots, where double dots are resolved. -/
def segments (p : Text) : List Text := resolveFrom (isAbsolute p) [] (p.splitOn slash)

/-- The slashes that a normalised path starts with. -/
def root (p : Text) : Text :=
  if !isAbsolute p then []
  else if p.startsWith "//" && !p.startsWith "///" then "//"
  else "/"

/-- Segments with slashes between them. -/
def ofSegments (ss : List Text) : Text := Text.joinWith "/" ss

/-- The normal form of a path, a dot for the empty one. -/
def normalize (p : Text) : Text :=
  let n := root p ++ ofSegments (segments p)
  if n.isEmpty then "." else n

/-- The normal form of a path that is taken from the folder `cwd`. -/
def absolute (cwd p : Text) : Text := normalize (join cwd p)

/-- Like `absolute`, with one slash at the start whatever the path has. -/
def resolve (cwd p : Text) : Text := "/" ++ ofSegments (segments (join cwd p))

/-- What is left of two lists behind their common start. -/
def dropCommon : List Text → List Text → List Text × List Text
  | a :: as, b :: bs => if a = b then dropCommon as bs else (a :: as, b :: bs)
  | as, bs => (as, bs)

/-- The path that leads from `start` to `p`, both taken from the folder `cwd`. -/
def relative (cwd start p : Text) : Text :=
  let (up, down) := dropCommon (parts (absolute cwd start)) (parts (absolute cwd p))
  let steps := up.map (fun _ => ("..": Text)) ++ down
  if steps.isEmpty then "." else ofSegments steps

/-- The last part of a path, behind its last slash. -/
def baseName (p : Text) : Text := (p.splitOn slash).getLastD []

/-- The folder of an absolute path without dots. -/
def parent (p : Text) : Text := "/" ++ ofSegments (parts p).dropLast

end ContractBuild.Path
