import ArmTokens.Dump

/-!
# Command line options

Arguments are taken from left to right, and the first fault decides. A value
given as an argument of its own is held back and looked at only when the next
option comes, or a first file name, or the end; a fault seen at once, such as an
unknown option, is therefore reported before a fault in a value held back.
-/

set_option autoImplicit false

namespace ArmTokens

structure Options where
  /-- Standard input is read where no file is named. -/
  file : Option String
  format : Format
  check : Bool
  deriving DecidableEq, Repr

def Format.ofName? : String → Option Format
  | "plain" => some .plain
  | "json" => some .json
  | _ => none

namespace Options

inductive Stop where
  | unknownArgument
  | invalidValue
  | argumentConflict
  | tooManyValues
  | help
  | version
  deriving DecidableEq, Repr

inductive Argument where
  | endOfOptions
  | long (name : List Char) (value : Option String)
  | short (letter : Char) (rest : List Char)
  | plain (text : String)
  deriving DecidableEq, Repr

def splitValue (cs : List Char) : List Char × Option String :=
  (cs.takeWhile (· != '='),
    match cs.dropWhile (· != '=') with
    | [] => none
    | _ :: value => some (String.ofList value))

/-- A lone `-` is a plain argument. -/
def Argument.ofString (arg : String) : Argument :=
  match arg.toList with
  | ['-', '-'] => .endOfOptions
  | '-' :: '-' :: cs => .long (splitValue cs).1 (splitValue cs).2
  | '-' :: c :: cs => .short c cs
  | _ => .plain arg

/-- What has been taken but not looked at yet. -/
inductive Held where
  | format (value : Option String)
  | file (name : String)
  deriving DecidableEq, Repr

structure Draft where
  file : Option String
  format : Option Format
  check : Bool
  held : Option Held
  deriving DecidableEq, Repr

namespace Draft

def empty : Draft := ⟨none, none, false, none⟩

/-- The format may be given once. A second one is a conflict whatever its value. -/
def setFormat (d : Draft) (value : String) : Except Stop Draft :=
  if d.format.isSome then .error .argumentConflict
  else match Format.ofName? value with
    | some f => .ok { d with format := some f }
    | none => .error .invalidValue

def settle (d : Draft) : Except Stop Draft :=
  match d.held with
  | none => .ok d
  | some (.format none) => .error .invalidValue
  | some (.format (some value)) => { d with held := none }.setFormat value
  | some (.file name) =>
    if name.isEmpty then .error .invalidValue
    else .ok { d with file := some name, held := none }

def hold (d : Draft) (h : Held) : Except Stop Draft := do
  return { ← d.settle with held := some h }

def attach (d : Draft) (value : String) : Except Stop Draft := do
  (← d.settle).setFormat value

def stopWith (d : Draft) (s : Stop) : Except Stop Draft := do
  let _ ← d.settle
  throw s

def setCheck (d : Draft) : Except Stop Draft := do
  let d ← d.settle
  if d.check then throw .argumentConflict
  return { d with check := true }

def hasFile (d : Draft) : Bool :=
  d.file.isSome || match d.held with
    | some (.file _) => true
    | _ => false

def positional (d : Draft) (name : String) : Except Stop Draft :=
  if d.hasFile then .error .unknownArgument else d.hold (.file name)

def long (d : Draft) (name : List Char) (value : Option String) : Except Stop Draft :=
  if name = "format".toList then
    match value with
    | some v => d.attach v
    | none => d.hold (.format none)
  else if name = "check".toList then
    if value.isSome then .error .tooManyValues else d.setCheck
  else if name = "help".toList then
    if value.isSome then .error .tooManyValues else d.stopWith .help
  else if name = "version".toList then
    if value.isSome then .error .tooManyValues else d.stopWith .version
  else .error .unknownArgument

/-- The letter decides; after `f` the rest is its value, with or without `=`. -/
def short (d : Draft) (letter : Char) (rest : List Char) : Except Stop Draft :=
  if letter = 'f' then
    match rest with
    | [] => d.hold (.format none)
    | '=' :: value => d.attach (String.ofList value)
    | value => d.attach (String.ofList value)
  else if letter = 'h' then d.stopWith .help
  else if letter = 'V' then d.stopWith .version
  else .error .unknownArgument

def plain (d : Draft) (text : String) : Except Stop Draft :=
  match d.held with
  | some (.format none) => .ok { d with held := some (.format (some text)) }
  | _ => d.positional text

def take : Draft → List String → Except Stop Draft
  | d, [] => .ok d
  | d, arg :: args =>
    match Argument.ofString arg with
    | .endOfOptions => args.foldlM positional d
    | .long name value => do (← d.long name value).take args
    | .short letter rest => do (← d.short letter rest).take args
    | .plain text => do (← d.plain text).take args

def options (d : Draft) : Except Stop Options := do
  let d ← d.settle
  return ⟨d.file, d.format.getD .plain, d.check⟩

end Draft

def parse (args : List String) : Except Stop Options := do
  (← Draft.empty.take args).options

end Options

end ArmTokens
