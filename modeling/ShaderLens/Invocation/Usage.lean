import ShaderLens.Text.Basic

/-!
# Usage
-/

namespace ShaderLens

def usageLines : List String :=
  [
    "Usage: shadepad <command> [options]",
    "",
    "Commands:",
    "  html <src>                  Print highlighted HTML markup",
    "  tokens <src>                Print the token stream, one token per line",
    "  view <vertex> <fragment>    Browse both shaders side by side (q to quit)",
    "  help                        Show this message",
    "",
    "Sources:",
    "  path or @path               Read a file",
    "  @@                          Read the clipboard",
    "  -                           Read standard input",
    "",
    "Options:",
    "  --tab-width <n>             Columns per tab stop in the viewer (default 2)",
    "  --class-prefix <prefix>     Class name prefix in markup (default token-)",
    "  --no-trailing-newline       Do not append a newline after the markup" ]

/-- What the program says about its use. Each line ends with a line feed. -/
def usage : Text :=
  usageLines.flatMap fun line => line.toList ++ ['\n']

end ShaderLens
