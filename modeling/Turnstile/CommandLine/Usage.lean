import Turnstile.Text

/-! # The help text -/

namespace Turnstile

/-- **What `--help` prints.** -/
def usage : Text :=
  Text.join "\n" (["Usage: libporter [options] <library> [function] [args...]",
    "",
    "Options:",
    "  -L, --lib-path <dir>      Directory holding library modules (default: built-in routines)",
    "  -p, --project <path>      tsconfig.json whose compiler options check the library",
    "  -l, --list                List the library's functions and their signatures",
    "      --profile             Report the wall-clock time of each call",
    "  -n, --repeat <count>      Number of profiled calls (default: 1)",
    "      --skip-check          Load the library without type-checking it",
    "      --verbose             Print configuration and library details",
    "  -h, --help                Show this help message",
    "",
    "Arrays are passed as comma-separated numbers.",
    "",
    "Example:",
    "  libporter --profile -n 5 fib fibonacci 90"].map Text.ofString)

end Turnstile
