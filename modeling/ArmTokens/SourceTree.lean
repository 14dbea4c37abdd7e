/-!
# A tree of source files

Names lead from directory to directory to a file. A name that leads above the
tree finds directories there, but no file.
-/

set_option autoImplicit false

namespace ArmTokens

inductive ReadFailure where
  | notFound
  | notADirectory
  | isADirectory
  | notUtf8
  | other (cause : String)
  deriving DecidableEq, Repr

def ReadFailure.message : ReadFailure → String
  | .notFound => "No such file or directory (os error 2)"
  | .notADirectory => "Not a directory (os error 20)"
  | .isADirectory => "Is a directory (os error 21)"
  | .notUtf8 => "stream did not contain valid UTF-8"
  | .other cause => cause

/-- Files and directories by the names that lead to them from the top. -/
structure SourceTree where
  files : List (List String × ByteArray)
  directories : List (List String)

namespace SourceTree

def staysHere (step : String) : Bool := step == "" || step == "."

def isAbove (step : String) : Bool := step == ".."

def steps (name : String) : List String := (name.splitOn "/").filter fun s => !staysHere s

def ofNames (files : List (String × ByteArray)) (directories : List String) : SourceTree :=
  ⟨files.map fun (name, bytes) => (steps name, bytes), directories.map steps⟩

def file? (t : SourceTree) (path : List String) : Option ByteArray :=
  t.files.lookup path

def isDirectory (t : SourceTree) (path : List String) : Bool :=
  path.isEmpty || t.directories.any path.isPrefixOf ||
    t.files.any fun (p, _) => path.isPrefixOf p && path != p

def outside : List String → ReadFailure
  | [] => .isADirectory
  | step :: steps => if isAbove step || staysHere step then outside steps else .notFound

def follow (t : SourceTree) (path : List String) : List String → Except ReadFailure ByteArray
  | [] =>
    match t.file? path with
    | some bytes => .ok bytes
    | none => .error (if t.isDirectory path then .isADirectory else .notFound)
  | step :: steps =>
    if (t.file? path).isSome then .error .notADirectory
    else if !t.isDirectory path then .error .notFound
    else if staysHere step then t.follow path steps
    else if isAbove step then
      if path.isEmpty then .error (outside steps) else t.follow path.dropLast steps
    else t.follow (path ++ [step]) steps

def read (t : SourceTree) (name : String) : Except ReadFailure ByteArray :=
  if name.startsWith "/" then .error (outside (name.splitOn "/"))
  else t.follow [] (name.splitOn "/")

end SourceTree

end ArmTokens
