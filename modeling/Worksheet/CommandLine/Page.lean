import Worksheet.CommandLine.Run
import Worksheet.Sheet.Uncached

namespace Worksheet

def Contents.shown (contents : Contents) (policy : Policy) (address : Address) : String :=
  match contents.evaluate policy, address.slot? with
  | .ok values, some slot => (values.read slot).text
  | _, _ => ""

def Grid.fault? (grid : Grid) : Option Fault :=
  match grid.recalculate.1 with
  | .ok () => none
  | .error fault => some fault

namespace CommandLine

def gridAfter (policy : Policy) (assignments : List (Address × String)) : Grid :=
  .ofContents policy (.listed assignments)

def failureCount (policy : Policy) (assignments : List (Address × String)) : Nat :=
  (List.range assignments.length).countP fun i =>
    (gridAfter policy (assignments.take (i + 1))).fault?.isSome

def failures (policy : Policy) (assignments : List (Address × String)) : List Fault :=
  (List.range assignments.length).filterMap fun i =>
    (gridAfter policy (assignments.take (i + 1))).fault?

def readCount (options : Options) : Nat :=
  options.gets.length + if options.table then rows * cols else 0

def page (shown : Address → String) (gets : List Address) (table : Bool) : List String :=
  gets.map shown ++ if table then tableLines (addressRows.map (List.map shown)) else []

def Outcome.warned (outcome : Outcome) (warning : Option String) : Outcome :=
  { outcome with reports := warning.toList.map Report.warning ++ outcome.reports }

def warningText : Option String → String
  | some text => "Warning: " ++ text ++ "\n"
  | none => ""

def linesOf (text : String) : List String := ((text.split '\n').toList.map (·.copy)).dropLast

def fieldsOf (line : String) : List String := (line.split '\t').toList.map (·.copy)

end CommandLine

end Worksheet
