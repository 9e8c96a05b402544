import Worksheet.CommandLine.Run

namespace Worksheet

def FileError.ofError : IO.Error → FileError
  | .alreadyExists _ code details | .interrupted _ code details
  | .inappropriateType _ code details | .invalidArgument _ code details
  | .noFileOrDirectory _ code details | .noSuchThing _ code details
  | .permissionDenied _ code details | .resourceExhausted _ code details
  | .hardwareFault code details | .illegalOperation code details | .otherError code details
  | .protocolError code details | .resourceBusy code details | .resourceVanished code details
  | .timeExpired code details | .unsatisfiedConstraints code details
  | .unsupportedOperation code details => .system code.toNat details
  | .unexpectedEof => .plain "unexpected end of file"
  | .userError text => .plain text

def attempt {α : Type} (action : IO α) : IO (Except FileError α) := do
  try
    return .ok (← action)
  catch error => return .error (.ofError error)

def metadataAt (path : String) : IO (Except FileError Metadata) :=
  attempt do
    let found ← (System.mkFilePath [path]).metadata
    return ⟨found.type == .file, found.byteSize.toNat⟩

def inspect (path : String) : IO Lookup := do
  match ← metadataAt path with
  | .error error => return ⟨.error error, .error error⟩
  | .ok metadata =>
    if Settings.sizeLimit < metadata.size then
      return ⟨.ok metadata, .error (.plain "not looked into")⟩
    else return ⟨.ok metadata, ← attempt (IO.FS.readBinFile path)⟩

/-- The files that an argument list may refer to, of which only one is looked at. -/
def filesFor (arguments : List String) : IO FileSystem := do
  -- A user without `HOME` counts as one without a home directory.
  let userPath? := userPath? (← IO.getEnv "HOME") (← IO.getEnv "XDG_CONFIG_HOME")
  let chosen? :=
    match CommandLine.Options.ofArguments arguments with
    | .ok (some options) => if options.noConfig then none else options.configPath <|> userPath?
    | _ => none
  let found ←
    match chosen? with
    | some path => inspect path
    | none => pure ⟨.error .noEntry, .error .noEntry⟩
  return ⟨userPath?, fun _ => found⟩

end Worksheet

open Worksheet in
def main (arguments : List String) : IO UInt32 := do
  let reader := Toml.Reader.standard fun _ => "the document is malformed or holds unknown settings"
  let outcome := CommandLine.run reader (← filesFor arguments) arguments
  IO.print outcome.stdout
  IO.eprint outcome.stderr
  return UInt32.ofNat outcome.code
