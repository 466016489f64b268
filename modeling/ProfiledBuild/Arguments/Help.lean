/-! The help that the command line prints about itself. -/

namespace ProfiledBuild.Help

def lines (ls : List String) : String := String.join (ls.map (· ++ "\n"))

def usage : String := "Usage: aprs-pgo [OPTIONS] <WORKLOAD_PATH>"

def summary : String := lines [
  "Build a profile-guided optimized aprs binary",
  "",
  usage,
  "",
  "Arguments:",
  "  <WORKLOAD_PATH>  Multiworld file or directory the instrumented binary loads while profiling",
  "",
  "Options:",
  "      --build-tool <BUILD_TOOL>        Build tool invoked for the instrumented and " ++
    "optimized builds [default: cargo]",
  "      --target-binary <TARGET_BINARY>  Instrumented binary to profile [default: " ++
    "target/<host>/release/aprs]",
  "      --dry-run                        Print the three commands without running them",
  "      --log-format <LOG_FORMAT>        Format of diagnostics written to stderr [default: " ++
    "pretty] [possible values: pretty, json]",
  "  -h, --help                           Print help (see more with '--help')"]

def full : String := lines [
  "Runs `cargo pgo build`, profiles the instrumented aprs binary with " ++
    "`--only-load <WORKLOAD_PATH>`, then runs `cargo pgo optimize`. " ++
    "Stops at the first failing step and exits with its code.",
  "",
  usage,
  "",
  "Arguments:",
  "  <WORKLOAD_PATH>",
  "          Multiworld file or directory the instrumented binary loads while profiling",
  "",
  "Options:",
  "      --build-tool <BUILD_TOOL>",
  "          Build tool invoked for the instrumented and optimized builds",
  "          ",
  "          [default: cargo]",
  "",
  "      --target-binary <TARGET_BINARY>",
  "          Instrumented binary to profile [default: target/<host>/release/aprs]",
  "",
  "      --dry-run",
  "          Print the three commands without running them",
  "",
  "      --log-format <LOG_FORMAT>",
  "          Format of diagnostics written to stderr",
  "",
  "          Possible values:",
  "          - pretty: Human-readable lines",
  "          - json:   One JSON object per line",
  "          ",
  "          [default: pretty]",
  "",
  "  -h, --help",
  "          Print help (see a summary with '-h')"]

end ProfiledBuild.Help
