import MetricTables.CommandLine.Arguments

/-!
# Help texts

What the program tells about itself.

## Main definitions

* `help` — the help text of a topic.
* `versionLine` — the line with the version.
-/

namespace MetricTables.CommandLine

/-- The lines on options that all help texts share. -/
def configLine : String :=
  "  -c, --config <CONFIG>        Path to configuration file " ++
    "(defaults apply when it does not exist) [default: tabula.toml]"

def logLevelLine : String :=
  "  -l, --log-level <LOG_LEVEL>  Log level (trace, debug, info, warn, error); " ++
    "overrides [log] level"

def helpLine : String := "  -h, --help                   Print help"

def helpPurpose : String := "Print this message or the help of the given subcommand(s)"

def helpLines : Topic → List String
  | .program =>
    ["Apply metric batches to a SQL store, creating and widening tables on the fly",
      "",
      "Usage: tabula [OPTIONS] <COMMAND>",
      "",
      "Commands:",
      "  apply    Match a batch of metrics against the store",
      "  columns  Show the live columns of a table",
      "  help     " ++ helpPurpose,
      "",
      "Options:",
      configLine,
      logLevelLine,
      helpLine,
      "  -V, --version                Print version"]
  | .apply =>
    ["Match a batch of metrics against the store",
      "",
      "Usage: tabula apply [OPTIONS] --input <INPUT>",
      "",
      "Options:",
      configLine,
      "  -i, --input <INPUT>          JSON-lines file of metrics (\"-\" reads stdin)",
      logLevelLine,
      "      --retries <RETRIES>      Retries per table for temporary store failures [default: 3]",
      "      --rows                   Print the rows that would be written",
      helpLine]
  | .columns =>
    ["Show the live columns of a table",
      "",
      "Usage: tabula columns [OPTIONS] <TABLE>",
      "",
      "Arguments:",
      "  <TABLE>  Table name (without namespace; [schema] namespace applies)",
      "",
      "Options:",
      configLine,
      logLevelLine,
      helpLine]
  | .help =>
    [helpPurpose,
      "",
      "Usage: tabula help [COMMAND]...",
      "",
      "Arguments:",
      "  [COMMAND]...  Print help for the subcommand(s)"]

def unlines (lines : List String) : String := String.join (lines.map (· ++ "\n"))

def help (t : Topic) : String := unlines (helpLines t)

def versionLine : String := "tabula 0.1.0\n"

end MetricTables.CommandLine
