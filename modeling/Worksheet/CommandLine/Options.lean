import Worksheet.Address

namespace Worksheet.CommandLine

inductive Request where
  | table
  | keepGoing
  | noConfig
  | strictEmpty
  | get (address : Address)
  | config (path : String)
  | assign (address : Address) (text : String)
deriving DecidableEq

inductive UsageError where
  | getWithoutCell
  | configWithoutPath
  | unknownOption (argument : String)
  | notAssignment (argument : String)
  | invalidLabel (label : String)
deriving DecidableEq

def UsageError.message : UsageError → String
  | .getWithoutCell => "--get requires a cell"
  | .configWithoutPath => "--config requires a file path"
  | .unknownOption argument => "Unknown option: " ++ argument
  | .notAssignment argument => "Expected CELL=CONTENT, got: " ++ argument
  | .invalidLabel label => Address.invalidLabel label

def addressOf (label : String) : Except UsageError Address :=
  match Address.ofText? label with
  | some address => .ok address
  | none => .error (.invalidLabel label)

def splitAssignment? (argument : String) : Option (String × String) :=
  match argument.toList.dropWhile (· ≠ '=') with
  | _ :: content =>
    some (String.ofList (argument.toList.takeWhile (· ≠ '=')), String.ofList content)
  | [] => none

def assignmentOf (argument : String) : Except UsageError Request :=
  match splitAssignment? argument with
  | some (label, text) => (addressOf label).map (Request.assign · text)
  | none => .error (.notAssignment argument)

inductive Word where
  | help
  | get
  | config
  | flag (request : Request)
  | other
deriving DecidableEq

def Word.ofArgument (argument : String) : Word :=
  match argument with
  | "-h" | "--help" => .help
  | "-g" | "--get" => .get
  | "--config" => .config
  | "-s" | "--show" => .flag .table
  | "-k" | "--keep-going" => .flag .keepGoing
  | "--no-config" => .flag .noConfig
  | "--strict-empty" => .flag .strictEmpty
  | _ => .other

/-- Reads arguments from left to right. The outcome is `none` as soon as help is asked for, and
    whatever follows an option that takes an operand is that operand. -/
def readRequests : List String → Except UsageError (Option (List Request))
  | [] => .ok (some [])
  | argument :: rest =>
    match Word.ofArgument argument with
    | .help => .ok none
    | .flag request => (readRequests rest).map (·.map (request :: ·))
    | .get =>
      match rest with
      | [] => .error .getWithoutCell
      | label :: rest => do
        let address ← addressOf label
        (readRequests rest).map (·.map (.get address :: ·))
    | .config =>
      match rest with
      | [] => .error .configWithoutPath
      | path :: rest => (readRequests rest).map (·.map (.config path :: ·))
    | .other =>
      if argument.toList.head? = some '-' then .error (.unknownOption argument)
      else do
        let request ← assignmentOf argument
        (readRequests rest).map (·.map (request :: ·))

structure Options where
  assignments : List (Address × String)
  gets : List Address
  table : Bool
  keepGoing : Bool
  configPath : Option String
  noConfig : Bool
  strictEmpty : Bool
deriving DecidableEq

namespace Request

def assignment? : Request → Option (Address × String)
  | .assign address text => some (address, text)
  | _ => none

def get? : Request → Option Address
  | .get address => some address
  | _ => none

def config? : Request → Option String
  | .config path => some path
  | _ => none

end Request

def Options.ofRequests (requests : List Request) : Options where
  assignments := requests.filterMap Request.assignment?
  gets := requests.filterMap Request.get?
  table := requests.contains .table || (requests.filterMap Request.get?).isEmpty
  keepGoing := requests.contains .keepGoing
  configPath := (requests.filterMap Request.config?).getLast?
  noConfig := requests.contains .noConfig
  strictEmpty := requests.contains .strictEmpty

def Options.ofArguments (arguments : List String) : Except UsageError (Option Options) :=
  (readRequests arguments).map (·.map Options.ofRequests)

end Worksheet.CommandLine
