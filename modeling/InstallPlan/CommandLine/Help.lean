import InstallPlan.CommandLine.Options
import InstallPlan.Text.Lines

/-!
# Command line — Help

The two help texts and the version of the program. A help text shows the
variables of the environment with their values, malformed octets replaced; the
further lines of a value are indented like the text around it. Headings are underlined, and what is to
be typed as it stands is bold.
-/

namespace InstallPlan

namespace Help

/-- A heading. -/
def heading (text : String) : String := "\x1B[1m\x1B[4m" ++ text ++ "\x1B[0m"

/-- What is to be typed as it stands. -/
def typed (text : String) : String := "\x1B[1m" ++ text ++ "\x1B[0m"

/-- What the program is for. -/
def about : String := "Provision an Arch Linux system from a declarative specification"

/-- How the program is called. -/
def usage : String := heading "Usage:" ++ " " ++ typed "archstrap" ++ " [OPTIONS] [SPECIFICATION]"

/-- The note on a variable of the environment, in a text that is indented. -/
def variableNote (indent name : String) (value : Option Octets) : String :=
  "[env: " ++ name ++ "=" ++ indentAfterBreaks indent (Utf8.decodeLossy (value.getD [])) ++ "]"

/-- The note on the variable for the root. -/
def rootNote (indent : String) (surroundings : Surroundings) : String :=
  variableNote indent "ARCHSTRAP_INSTALL_ROOT" surroundings.installRoot

/-- The note on the variable for the mode. -/
def modeNote (indent : String) (surroundings : Surroundings) : String :=
  variableNote indent "ARCHSTRAP_MODE" surroundings.mode

/-- The shells that completions can be printed for. -/
def shells : String := "[possible values: bash, elvish, fish, powershell, zsh]"

/-- What the log shows with and without an option. -/
def debugNote : String := "Show debug log messages (default: info, warning, and error)"

/-- The short help text. -/
def short (surroundings : Surroundings) : List String :=
  let indent := String.ofList (List.replicate 37 ' ')
  [about,
   "",
   usage,
   "",
   heading "Arguments:",
   "  [SPECIFICATION]  Path to specification file, JSON or TOML (default: stdin)",
   "",
   heading "Options:",
   "      " ++ typed "--install-root" ++ " <INSTALL_ROOT>  Path to install the Arch Linux system to "
     ++ rootNote indent surroundings ++ " [default: /mnt]",
   "      " ++ typed "--mode" ++ " <MODE>                  Operational mode "
     ++ modeNote indent surroundings
     ++ " [default: shell] [possible values: exec, dryrun, shell]",
   "      " ++ typed "--debug" ++ "                        " ++ debugNote,
   "  " ++ typed "-q" ++ ", " ++ typed "--quiet"
     ++ "                        Only show warning and error log messages",
   "      " ++ typed "--doc"
     ++ "                          Print the bundled documentation and exit",
   "      " ++ typed "--completions" ++ " <SHELL>          Print shell completions and exit "
     ++ shells,
   "  " ++ typed "-h" ++ ", " ++ typed "--help"
     ++ "                         Print help (see more with '--help')",
   "  " ++ typed "-V" ++ ", " ++ typed "--version" ++ "                      Print version"]

/-- The long help text. -/
def long (surroundings : Surroundings) : List String :=
  let indent := String.ofList (List.replicate 10 ' ')
  [about,
   "",
   usage,
   "",
   heading "Arguments:",
   "  [SPECIFICATION]",
   "          Path to specification file, JSON or TOML (default: stdin)",
   "",
   heading "Options:",
   "      " ++ typed "--install-root" ++ " <INSTALL_ROOT>",
   "          Path to install the Arch Linux system to",
   "          ",
   "          " ++ rootNote indent surroundings,
   "          [default: /mnt]",
   "",
   "      " ++ typed "--mode" ++ " <MODE>",
   "          Operational mode",
   "",
   "          Possible values:",
   "          - " ++ typed "exec" ++ ":   Run every command against the live system",
   "          - " ++ typed "dryrun" ++ ": Log the commands without running them",
   "          - " ++ typed "shell" ++ ":  Print a bash script to stdout",
   "          ",
   "          " ++ modeNote indent surroundings,
   "          [default: shell]",
   "",
   "      " ++ typed "--debug",
   "          " ++ debugNote,
   "",
   "  " ++ typed "-q" ++ ", " ++ typed "--quiet",
   "          Only show warning and error log messages",
   "",
   "      " ++ typed "--doc",
   "          Print the bundled documentation and exit",
   "",
   "      " ++ typed "--completions" ++ " <SHELL>",
   "          Print shell completions and exit",
   "          ",
   "          " ++ shells,
   "",
   "  " ++ typed "-h" ++ ", " ++ typed "--help",
   "          Print help (see a summary with '-h')",
   "",
   "  " ++ typed "-V" ++ ", " ++ typed "--version",
   "          Print version"]

/-- The text of some lines. -/
def page (lines : List String) : String := "\n".intercalate lines ++ "\n"

/-- The version of the program. -/
def version : String := "archstrap 0.1.0\n"

end Help

end InstallPlan
