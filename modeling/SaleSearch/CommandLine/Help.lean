import SaleSearch.CommandLine.Arguments

/-!
# Help

The texts that explain the program and its commands.
-/

namespace SaleSearch.CommandLine

/-- The name under which the program is run. -/
def programName : String := "salequery-demo"

/-- What is printed when the version is asked for. -/
def versionText : String :=
  programName ++ " 0.1.0\n"

namespace CommandName

/-- What a command does, in one line. -/
def about : CommandName → String
  | .record => "Compile a sales listing query"
  | .aggregate => "Compile an aggregate query"
  | .verify => "Only verify the parameters"
  | .fold => "Fold history rows (a JSON array) into one series per chain and currency"

/-- How the help calls the positional of a command. -/
def positional : CommandName → String
  | .fold => "<ROWS>"
  | _ => "<QUERY>"

/-- What the help says of the positional of a command. -/
def positionalAbout : CommandName → String
  | .record => "URL query string, e.g. \"collection_name=pomelo&limit=10\""
  | _ => ""

end CommandName

/-- Rows of two columns, the second of which starts at the same place in every line. -/
def columns (rows : List (String × String)) : String :=
  let width := rows.foldl (fun width row => max width row.1.length) 0
  String.join <| rows.map fun row =>
    "  " ++ row.1 ++ String.ofList (List.replicate (width - row.1.length) ' ') ++ "  " ++ row.2
      ++ "\n"

def configRow : String × String :=
  ("    --config <CONFIG>", "Compiler configuration YAML (defaults apply when omitted)")

def referenceRow : String × String :=
  ("    --reference <REFERENCE>",
    "YAML file listing known collection_names, symbol_codes and chains")

def jsonRow : String × String :=
  ("    --json", "Print the full compiled query as JSON")

def helpRow : String × String :=
  ("-h, --help", "Print help")

/-- The options of a command in the order in which the help lists them. -/
def optionRows : CommandName → List (String × String)
  | .aggregate =>
      [configRow,
        ("    --history", "Daily buckets per chain and currency instead of a single value"),
        ("    --now <NOW>",
          "Current time in epoch seconds, for reproducible history windows"),
        referenceRow, jsonRow, helpRow]
  | _ => [configRow, referenceRow, jsonRow, helpRow]

/-- What the command for help does, in one line. -/
def helpAbout : String :=
  "Print this message or the help of the given subcommand(s)"

/-- The help on a topic. That of the program is also printed on misuse. -/
def helpText : Topic → String
  | .program =>
      "Verify sale query parameters and print the compiled ClickHouse SQL\n\nUsage: " ++ programName
        ++ " [OPTIONS] <COMMAND>\n\nCommands:\n"
        ++ columns (CommandName.all.map (fun name => (name.text, name.about))
          ++ [("help", helpAbout)])
        ++ "\nOptions:\n"
        ++ columns [configRow, referenceRow, jsonRow, helpRow, ("-V, --version", "Print version")]
  | .help =>
      helpAbout ++ "\n\nUsage: " ++ programName ++ " help [COMMAND]...\n\nArguments:\n"
        ++ columns [("[COMMAND]...", "Print help for the subcommand(s)")]
  | .command name =>
      name.about ++ "\n\nUsage: " ++ programName ++ " " ++ name.text ++ " [OPTIONS] "
        ++ name.positional ++ "\n\nArguments:\n"
        ++ columns [(name.positional, name.positionalAbout)]
        ++ "\nOptions:\n" ++ columns (optionRows name)

end SaleSearch.CommandLine
