import HeaderBindings.CommandLine.Run

/-!
What the program leaves when it has run: the exit code, what it wrote on both standard streams, and
the files. A run that succeeds ends with exit code 0, a run that fails with a diagnostic and exit code
1, and a command line that is not run leaves help, the version or a usage error. In lines about
events, characters that could control a terminal are written by their numbers.
-/

namespace HeaderBindings

/-- What a run leaves. -/
structure Report where
  exitCode : Nat
  output : String := ""
  errors : String := ""
  files : FileTree
  deriving DecidableEq

namespace Report

/-- The level as it is written at the start of a line. -/
def levelField (colored : Bool) (level : Level) : String :=
  let name := String.ofList (List.replicate (5 - level.name.length) ' ') ++ level.name
  let colour := match level with
    | .debug => "34"
    | .info => "32"
    | .warn => "33"
  if colored then "\x1b[" ++ colour ++ "m" ++ name ++ "\x1b[0m" else name

def isControl (c : Char) : Bool :=
  c == '\x1b' || c == '\x07' || c == '\x08' || c == '\x0c' || c == '\x7f'
    || (0x80 ≤ c.toNat && c.toNat ≤ 0x9F)

/-- A character as it is written in a line about an event: one that could control a terminal is
written by its number. -/
def harmless (c : Char) : String :=
  if !isControl c then String.singleton c
  else if c.toNat < 0x10 then "\\x0" ++ String.ofList (Nat.toDigits 16 c.toNat)
  else if c.toNat < 0x80 then "\\x" ++ String.ofList (Nat.toDigits 16 c.toNat)
  else "\\u\x7b" ++ String.ofList (Nat.toDigits 16 c.toNat) ++ "\x7d"

def eventLine (colored : Bool) (event : Event) : String :=
  levelField colored event.level ++ " " ++ String.join (event.message.toList.map harmless) ++ "\n"

def isShown (verbose : Bool) (event : Event) : Bool := verbose || event.level != .debug

def ofRefusal (host : Host) : CommandLine.Refusal → Report
  | .usage => { exitCode := 2, errors := CommandLine.usageText, files := host.files }
  | .help command =>
      { exitCode := 0, output := CommandLine.helpText command, files := host.files }
  | .version => { exitCode := 0, output := CommandLine.versionText, files := host.files }

end Report

namespace Message

/-- Whether a message is written at all: there are fewer lines about events unless more are asked
for. -/
def isShown (verbose : Bool) : Message → Bool
  | event reported => Report.isShown verbose reported
  | _ => true

def text (line : CommandLine) (terminal : Bool) : Message → String
  | event reported => Report.eventLine (!line.noColor) reported
  | copy text => text
  | diagnostic error => error.format (terminal && !line.noColor)

end Message

namespace CommandLine

/-- Runs a command line to its end: the exit code, and the last state. A failure leaves the state as
it is, but for the diagnostic. -/
def finish (line : CommandLine) (host : Host) : Nat × RunState :=
  match Run.start (line.execute host) { files := host.files } with
  | (.ok _, state) => (0, state)
  | (.error error, state) =>
      (1, { state with messages := state.messages ++ [.diagnostic error.diagnostic] })

/-- What is written on the standard error. -/
def messages (line : CommandLine) (host : Host) : List Message :=
  (line.finish host).2.messages.filter (Message.isShown line.verbose)

def report (line : CommandLine) (host : Host) : Report where
  exitCode := (line.finish host).1
  output := (line.finish host).2.output
  errors := String.join ((line.messages host).map (Message.text line host.terminal))
  files := (line.finish host).2.files

end CommandLine

/-- Runs the program with the arguments given. -/
def run (host : Host) (arguments : List String) : Report :=
  match CommandLine.read (host.environment? "GIBIND_CONFIG") arguments with
  | .ok line => line.report host
  | .error refusal => Report.ofRefusal host refusal

end HeaderBindings
