import ArmTokens.Command

/-!
# The command line

Reads the source, writes what the run says, and turns its result into an exit
code.
-/

set_option autoImplicit false

namespace ArmTokens

def usage : String :=
  "Tokenize ARM assembly source into highlighting categories\n\n" ++
  "Usage: armtokens [OPTIONS] [FILE]\n\n" ++
  "  -f, --format <FORMAT>  token dump format: plain or json\n" ++
  "      --check            report malformed tokens instead of dumping the stream\n" ++
  "  -h, --help             print help\n" ++
  "  -V, --version          print version\n"

def Options.Stop.message : Options.Stop → String
  | .unknownArgument => "unexpected argument"
  | .invalidValue => "invalid or missing value"
  | .argumentConflict => "an option is given twice"
  | .tooManyValues => "an option takes no value"
  | .help => usage
  | .version => "armtokens 0.1.0\n"

def ReadFailure.ofError : IO.Error → ReadFailure
  | .noFileOrDirectory .. => .notFound
  | .inappropriateType _ 21 _ => .isADirectory
  | .inappropriateType .. => .notADirectory
  | .permissionDenied .. => .other "Permission denied (os error 13)"
  | e => .other (toString e)

def readSource (file : Option String) : IO (Except ReadFailure ByteArray) := do
  try
    match file with
    | some name => return .ok (← IO.FS.readBinFile name)
    | none => return .ok (← (← IO.getStdin).readBinToEnd)
  catch e => return .error (.ofError e)

def perform (o : Options) : IO UInt32 := do
  match run o (← readSource o.file) with
  | .ok outcome =>
    IO.print outcome.stdout
    IO.eprint outcome.stderr
    return if outcome.success then 0 else 1
  | .error failure =>
    IO.eprintln failure.message
    IO.eprintln "abort"
    return 1

end ArmTokens

def main (args : List String) : IO UInt32 := do
  match ArmTokens.Options.parse args with
  | .ok o => ArmTokens.perform o
  | .error .help => IO.print ArmTokens.Options.Stop.help.message; return 0
  | .error .version => IO.print ArmTokens.Options.Stop.version.message; return 0
  | .error stop =>
    IO.eprintln ("error: " ++ stop.message)
    return 2
