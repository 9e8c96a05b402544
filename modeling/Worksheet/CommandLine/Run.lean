import Worksheet.CommandLine.Options
import Worksheet.Settings.Load
import Worksheet.Table

namespace Worksheet.CommandLine

inductive Report where
  | usage
  | warning (text : String)
  | error (text : String)
deriving DecidableEq

def usageLines : List String := [
  "Usage: cellgrid [OPTIONS] [CELL=CONTENT]...",
  "",
  "Arguments:",
  "  [CELL=CONTENT]            Set a cell, e.g. A0=1.5 or B3==A0",
  "",
  "Options:",
  "  -g, --get <CELL>          Print the value of a cell (can be repeated)",
  "  -s, --show                Print the whole grid",
  "  -k, --keep-going          Report errors and continue instead of stopping",
  "  --config <FILE>           Load configuration from FILE",
  "  --no-config               Ignore the user configuration file",
  "  --strict-empty            Referencing an empty cell is an invalid value",
  "  -h, --help                Print help"]

def Report.lines : Report → List String
  | .usage => usageLines
  | .warning text => ["Warning: " ++ text]
  | .error text => ["Error: " ++ text]

structure Outcome where
  printed : List String
  reports : List Report
  code : Nat
deriving DecidableEq

def written (lines : List String) : String := String.join (lines.map (· ++ "\n"))

def Outcome.stdout (outcome : Outcome) : String := written outcome.printed

def Outcome.stderr (outcome : Outcome) : String := written (outcome.reports.flatMap Report.lines)

def tabbed (texts : List String) : String := "\t".intercalate texts

def tableLines (texts : List (List String)) : List String :=
  tabbed ("" :: Address.columnLetters.map Char.toString) ::
    texts.mapIdx fun row texts => tabbed (row.repr :: texts)

def about (doing : String) (address : Address) (error : SheetError) : String :=
  doing ++ " " ++ address.text ++ ": " ++ error.message

def assignAll (sheet : Sheet) : List (Address × String) → Except String Sheet
  | [] => .ok sheet
  | (address, text) :: rest =>
    match sheet.setContent address text with
    | (.ok (), sheet) => assignAll sheet rest
    | (.error error, _) => .error (about "Setting" address error)

def readAll (sheet : Sheet) : List Address → List String × Except String Sheet
  | [] => ([], .ok sheet)
  | address :: rest =>
    match sheet.getValue address with
    | (.ok text, sheet) =>
      let (texts, result) := readAll sheet rest
      (text :: texts, result)
    | (.error error, _) => ([], .error (about "Reading" address error))

def showTable (sheet : Sheet) (options : Options) : Except String (List String) :=
  if options.table then
    match sheet.values with
    | (.ok display, _) => .ok (tableLines (display.toList.map Vector.toList))
    | (.error error, _) => .error error.message
  else .ok []

def runStrict (sheet : Sheet) (options : Options) : Outcome :=
  match assignAll sheet options.assignments with
  | .error text => ⟨[], [.error text], 1⟩
  | .ok sheet =>
    match readAll sheet options.gets with
    | (printed, .error text) => ⟨printed, [.error text], 1⟩
    | (printed, .ok sheet) =>
      match showTable sheet options with
      | .ok lines => ⟨printed ++ lines, [], 0⟩
      | .error text => ⟨printed, [.error text], 1⟩

instance : MessageSink (Array String) := ⟨Array.push⟩

variable {σ : Type} [MessageSink σ]

def writeCells (table : Table σ) (assignments : List (Address × String)) : Table σ :=
  assignments.foldl (fun table (address, text) => table.setValueAt address text) table

def readCells (table : Table σ) : List Address → List String × Table σ
  | [] => ([], table)
  | address :: rest =>
    let (text, table) := table.valueAt address
    let (texts, table) := readCells table rest
    (text :: texts, table)

def readRows (table : Table σ) : List (List Address) → List (List String) × Table σ
  | [] => ([], table)
  | addresses :: rest =>
    let (texts, table) := readCells table addresses
    let (others, table) := readRows table rest
    (texts :: others, table)

def addressRows : List (List Address) :=
  (List.range rows).map fun row => (List.range cols).map fun col => ⟨col, row⟩

def runOnwards (sheet : Sheet) (options : Options) : Outcome :=
  let table : Table (Array String) := writeCells ⟨sheet, #[]⟩ options.assignments
  let (printed, table) := readCells table options.gets
  let (lines, table) :=
    if options.table then
      let (texts, table) := readRows table addressRows
      (tableLines texts, table)
    else ([], table)
  ⟨printed ++ lines, table.sink.toList.map Report.error, if table.sink.isEmpty then 0 else 1⟩

variable (reader : Toml.Reader)

def settingsFor (files : FileSystem) (options : Options) : Settings × Option String :=
  if options.noConfig then (default, none) else Settings.load reader files options.configPath

def policyFor (options : Options) (settings : Settings) : Policy :=
  if options.strictEmpty then .reject else settings.emptyCells

def runOptions (files : FileSystem) (options : Options) : Outcome :=
  let (settings, warning) := settingsFor reader files options
  let sheet := Sheet.empty (policyFor options settings)
  let outcome := if options.keepGoing then runOnwards sheet options else runStrict sheet options
  { outcome with reports := warning.toList.map Report.warning ++ outcome.reports }

def run (files : FileSystem) (arguments : List String) : Outcome :=
  match Options.ofArguments arguments with
  | .error error => ⟨[], [.error error.message], 1⟩
  | .ok none => ⟨[], [.usage], 0⟩
  | .ok (some options) => runOptions reader files options

end Worksheet.CommandLine
