import QueryTemplate.Command

/-! # Help texts -/

namespace QueryTemplate

def Topic.help : Topic → String
  | .root => "\n".intercalate [
    "sqltpl - compile SQL templates into literal SQL",
    "",
    "USAGE:",
    "  sqltpl [-v] <COMMAND> [OPTIONS]",
    "",
    "COMMANDS:",
    "  render    Render queries from a query file",
    "  check     Validate every query in a query file",
    "  eval      Render an inline template",
    "",
    "OPTIONS:",
    "  -v, --verbose         Log compile details to stderr",
    "  -h, --help            Print help",
    "",
    "Run \x60sqltpl <COMMAND> --help\x60 for command options."]
  | .render => "\n".intercalate [
    "USAGE:",
    "  sqltpl render [OPTIONS]",
    "",
    "OPTIONS:",
    "  --config <FILE>       Query file path (default: sqltpl.toml)",
    "  --name <NAME>         Render only this query (repeatable)",
    "  -h, --help            Print help"]
  | .check => "\n".intercalate [
    "USAGE:",
    "  sqltpl check [OPTIONS]",
    "",
    "OPTIONS:",
    "  --config <FILE>       Query file path (default: sqltpl.toml)",
    "  -h, --help            Print help"]
  | .eval => "\n".intercalate [
    "USAGE:",
    "  sqltpl eval --template <SQL> [OPTIONS]",
    "",
    "OPTIONS:",
    "  --template <SQL>      Template text",
    "  --args <JSON>         Arguments as a JSON array (default: [])",
    "  --skip <TOKEN>        String that stands for the skip marker (default: @skip)",
    "  -h, --help            Print help"]

end QueryTemplate
