import Sexpr.Text.Lines

/-!
The settings file that a user starts from: every key with its default, all commented out.
-/

namespace Sexpr.Settings

def templateLines : List String :=
  ["# lispish configuration file",
   "# Place as .lispish.toml in project root or ~/.config/lispish/config.toml for user defaults",
   "",
   "[defaults]",
   "# Output format for `tokens` and `tree`: text, json",
   "# format = \"text\"",
   "",
   "# Enable debug logging by default",
   "# verbose = false",
   "",
   "# Suppress informational output",
   "# quiet = false",
   "",
   "[parser]",
   "# Only accept ID, INT, REAL and STRING tokens as atoms.",
   "# Set to false to take any token (e.g. a stray ')') as an atom.",
   "# strict = true",
   "",
   "[display]",
   "# Column width for node kinds in tree listings",
   "# kind_width = 42",
   "",
   "# Print the token listing in `check` output",
   "# show_tokens = true"]

def template : String :=
  Text.unlines templateLines

end Sexpr.Settings
