import Worksheet.CommandLine.Options

namespace Worksheet.CommandLine

def switches : List (String × Request) := [
  ("-s", .table), ("--show", .table), ("-k", .keepGoing), ("--keep-going", .keepGoing),
  ("--no-config", .noConfig), ("--strict-empty", .strictEmpty)]

/-- Arguments that belong together, and the request that they make. An operand may look like an
    option, and the text of an assignment may be anything. -/
inductive Group : List String → Request → Prop where
  | switch {argument : String} {request : Request} (listed : (argument, request) ∈ switches) :
      Group [argument] request
  | get {option label : String} {address : Address} (spelled : option = "-g" ∨ option = "--get")
      (named : Address.ofText? label = some address) : Group [option, label] (.get address)
  | config (path : String) : Group ["--config", path] (.config path)
  | assign {label : String} {address : Address} (named : Address.ofText? label = some address)
      (text : String) : Group [label ++ "=" ++ text] (.assign address text)

inductive Grouped : List String → List Request → Prop where
  | nil : Grouped [] []
  | cons {arguments others : List String} {request : Request} {requests : List Request}
      (group : Group arguments request) (rest : Grouped others requests) :
      Grouped (arguments ++ others) (request :: requests)

def AsksForHelp (arguments : List String) : Prop :=
  ∃ before requests word after, arguments = before ++ word :: after ∧ Grouped before requests ∧
    (word = "-h" ∨ word = "--help")

end Worksheet.CommandLine
