/-! What the program tells about itself. -/

namespace NicFlow.CommandLine.Help

def lines (lines : List String) : String := String.join (lines.map (· ++ "\n"))

def version : String := "flowconfig-agent 1.0\n"

def program : String := lines
  ["Programs NIC flow rules on a node",
   "",
   "Usage: flowconfig-agent [OPTIONS] <COMMAND>",
   "",
   "Commands:",
   "  validate  Validate a rule file offline and print the fingerprint of every rule",
   "  run       Reconcile the rules of this node with the flow service",
   "  help      Print this message or the help of the given subcommand(s)",
   "",
   "Options:",
   "      --tracing <tracing configuration>",
   "          Comma separated list of target=level directives (or a bare level for the default)",
   "  -h, --help",
   "          Print help",
   "  -V, --version",
   "          Print version"]

def validate : String := lines
  ["Validate a rule file offline and print the fingerprint of every rule",
   "",
   "Usage: flowconfig-agent validate [OPTIONS] <FILE>",
   "",
   "Arguments:",
   "  <FILE>",
   "          Rule file (YAML or JSON)",
   "",
   "Options:",
   "      --kind <KIND>",
   "          Kind of rule file",
   "",
   "          Possible values:",
   "          - node:    Rules of a single node",
   "          - cluster: Rules targeting the pods of the cluster",
   "          ",
   "          [default: node]",
   "",
   "      --pods <FILE>",
   "          Pods to translate cluster rules for (YAML list)",
   "",
   "  -h, --help",
   "          Print help (see a summary with '-h')"]

/-- The summary, without a description of each kind. -/
def validateSummary : String := lines
  ["Validate a rule file offline and print the fingerprint of every rule",
   "",
   "Usage: flowconfig-agent validate [OPTIONS] <FILE>",
   "",
   "Arguments:",
   "  <FILE>  Rule file (YAML or JSON)",
   "",
   "Options:",
   "      --kind <KIND>  Kind of rule file [default: node] [possible values: node, cluster]",
   "      --pods <FILE>  Pods to translate cluster rules for (YAML list)",
   "  -h, --help         Print help (see more with '--help')"]

def run : String := lines
  ["Reconcile the rules of this node with the flow service",
   "",
   "Usage: flowconfig-agent run [OPTIONS] --node-name <NAME> --rules <FILE>",
   "",
   "Options:",
   "      --node-name <NAME>            Name of this node",
   "      --grpc-endpoint <URI>         Endpoint of the flow service [default: http://127.0.0.1:31000]",
   "      --rpc-timeout <MILLISECONDS>  Timeout of each remote call [default: 2000]",
   "      --resync-period <SECONDS>     Period between two reconciliations [default: 30]",
   "      --rules <FILE>                Rules of this node (YAML or JSON)",
   "      --sysfs <PATH>                Mount point of sysfs [default: /sys]",
   "      --once                        Reconcile once and exit",
   "  -h, --help                        Print help"]

def help : String := lines
  ["Print this message or the help of the given subcommand(s)",
   "",
   "Usage: flowconfig-agent help [COMMAND]...",
   "",
   "Arguments:",
   "  [COMMAND]...  Print help for the subcommand(s)"]

end NicFlow.CommandLine.Help
