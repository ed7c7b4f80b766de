import DashboardKit.Component.Catalog

/-!
# The command line: help

The help text, laid out for lines of eighty columns.
-/

set_option autoImplicit false

namespace DashboardKit.CommandLine

/-- The kinds of component, as help shows them. -/
def kindChoices : Text :=
  ("\x7b" : Text) ++ Text.join "," (ComponentKind.all.map fun k => Text.ofString k.name)
    ++ ("\x7d" : Text)

/-- The lines that tell how the program is called. -/
def usageLines : List Text := [
  ("usage: microlab [-h] [--type " : Text) ++ kindChoices ++ ("]" : Text),
  "                [--config CONFIG] [--project-root PROJECT_ROOT]",
  "                [--templates-dir TEMPLATES_DIR] [--no-install] [--strict]",
  "                [--list-types]"]

/-- The lines of the help text. -/
def helpLines : List Text := usageLines ++ ([
  "",
  "Generate a dashboard component and its API route into a Next.js project.",
  "",
  "options:",
  "  -h, --help            show this help message and exit",
  ("  --type " : Text) ++ kindChoices ++ (", -t " : Text) ++ kindChoices,
  "                        Component type (prompted for when omitted)",
  "  --config CONFIG, -c CONFIG",
  "                        Path to the component config file (.json, .yaml, .yml)",
  "  --project-root PROJECT_ROOT, -p PROJECT_ROOT",
  "                        Root of the Next.js project (default: current",
  "                        directory)",
  "  --templates-dir TEMPLATES_DIR",
  "                        Directory holding the template assets (default:",
  "                        packaged templates)",
  "  --no-install          Patch package.json but do not run the package manager",
  "  --strict              Exit non-zero when no files were generated",
  "  --list-types          List the available component types and exit",
  "",
  "Examples:",
  "  microlab",
  "  microlab --type deviation --config boiler.json",
  "  microlab --type dashtable --project-root ./my-app --no-install"] : List Text)

/-- Lines, each with a line break. -/
def brokenLines (ls : List Text) : Text := ls.flatMap (· ++ [.scalar '\n'])

/-- The help text. -/
def helpText : Text := brokenLines helpLines

end DashboardKit.CommandLine
