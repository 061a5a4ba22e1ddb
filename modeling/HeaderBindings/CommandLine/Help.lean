import HeaderBindings.CommandLine.Command

/-!
The help on the program and its commands, and the files by which shells complete its command lines,
both made from the rules of the levels.
-/

namespace HeaderBindings.CommandLine

def programName : String := "gibind"

def versionText : String := programName ++ " 0.1.0\n"

/-! ### Help -/

def optionForm (rule : OptionRule) : String :=
  let letter := match rule.letter with
    | some letter => "-" ++ String.singleton letter ++ ", "
    | none => "    "
  let value := match rule.value with
    | some valueRule => " <" ++ valueRule.label ++ ">"
    | none => ""
  letter ++ "--" ++ rule.name ++ value

def explained (form about : String) : String :=
  "  " ++ padded form 38 ++ about ++ "\n"
where
  /-- The text with blanks behind it up to a width. -/
  padded (text : String) (width : Nat) : String :=
    text ++ String.ofList (List.replicate (width - text.length) ' ')

def levelOf? (command : String) : Option Level :=
  commandLevels.find? (·.command == some command)

def usageLine (level : Level) : String :=
  let command := match level.command with
    | some name => " " ++ name
    | none => ""
  let operand := match level.operand with
    | some rule => " [" ++ rule.label ++ "]"
    | none => ""
  let commands := if level.commands.isEmpty then "" else " <COMMAND>"
  "Usage: " ++ programName ++ command ++ " [OPTIONS]" ++ operand ++ commands ++ "\n"

def commandList (level : Level) : String :=
  if level.commands.isEmpty then ""
  else
    "\nCommands:\n" ++ String.join (level.commands.map fun name =>
      explained name (((levelOf? name).map (·.about)).getD "Print help on the commands"))

def levelHelp (level : Level) : String :=
  level.about ++ "\n\n" ++ usageLine level ++ commandList level ++ "\nOptions:\n"
    ++ String.join (level.options.map fun rule => explained (optionForm rule) rule.about)

def helpText (command : Option String) : String :=
  levelHelp ((command.bind levelOf?).getD programLevel)

/-- What is said about arguments that break the rules. -/
def usageText : String :=
  "error: the arguments cannot be used\n\n" ++ usageLine programLevel
    ++ "\nFor more information, try '--help'.\n"

/-! ### Completions -/

def levelWords (level : Level) : List String :=
  level.commands ++ level.options.map ("--" ++ ·.name)

def wordList (level : Level) : String := String.intercalate " " (levelWords level)

/-- The names of the commands that have a level, with it. -/
def namedLevels : List (String × Level) :=
  commandLevels.filterMap fun level => level.command.map (·, level)

/-- Completions by the words of the first command on the line. -/
def bashCompletion : String :=
  "_" ++ programName ++ "() \x7b\n"
    ++ "    local words=\"" ++ wordList programLevel ++ "\"\n"
    ++ "    case \"$\x7bCOMP_WORDS[1]\x7d\" in\n"
    ++ String.join (namedLevels.map fun entry =>
        "        " ++ entry.1 ++ ") words=\"" ++ wordList entry.2 ++ "\" ;;\n")
    ++ "    esac\n"
    ++ "    COMPREPLY=($(compgen -W \"$words\" -- \"$\x7bCOMP_WORDS[COMP_CWORD]\x7d\"))\n"
    ++ "\x7d\ncomplete -F _" ++ programName ++ " -o default " ++ programName ++ "\n"

def zshCompletion : String :=
  "#compdef " ++ programName ++ "\n"
    ++ "case $words[2] in\n"
    ++ String.join (namedLevels.map fun entry =>
        "    " ++ entry.1 ++ ") compadd -- " ++ wordList entry.2 ++ " ;;\n")
    ++ "    *) compadd -- " ++ wordList programLevel ++ " ;;\n"
    ++ "esac\n"

/-- Completions of one level, under a condition on the command. -/
def fishCompletion (condition : String) (level : Level) : String :=
  let start := "complete -c " ++ programName ++ " -n \"" ++ condition ++ "\""
  String.join (level.commands.map fun name => start ++ " -f -a \"" ++ name ++ "\"\n")
    ++ String.join (level.options.map fun rule => start ++ " -l " ++ rule.name ++ "\n")

def quotedWords (separator : String) (level : Level) : String :=
  String.intercalate separator ((levelWords level).map fun word => "'" ++ word ++ "'")

def elvishCompletion : String :=
  "set edit:completion:arg-completer[" ++ programName ++ "] = \x7b|@words|\n"
    ++ "    var command = $words[1]\n"
    ++ String.join (namedLevels.map fun entry =>
        "    if (eq $command " ++ entry.1 ++ ") \x7b put " ++ quotedWords " " entry.2
          ++ "; return \x7d\n")
    ++ "    put " ++ quotedWords " " programLevel ++ "\n\x7d\n"

def powershellCompletion : String :=
  "Register-ArgumentCompleter -Native -CommandName '" ++ programName ++ "' -ScriptBlock \x7b\n"
    ++ "    param($word, $line)\n"
    ++ "    switch ($line.CommandElements[1].Extent.Text) \x7b\n"
    ++ String.join (namedLevels.map fun entry =>
        "        '" ++ entry.1 ++ "' \x7b $words = " ++ quotedWords ", " entry.2 ++ " \x7d\n")
    ++ "        default \x7b $words = " ++ quotedWords ", " programLevel ++ " \x7d\n"
    ++ "    \x7d\n"
    ++ "    $words | Where-Object \x7b $_ -like \"$word*\" \x7d\n\x7d\n"

def completionText : CompletingShell → String
  | .bash => bashCompletion
  | .zsh => zshCompletion
  | .elvish => elvishCompletion
  | .powershell => powershellCompletion
  | .fish =>
      fishCompletion "__fish_use_subcommand" programLevel
        ++ String.join (namedLevels.map fun entry =>
            fishCompletion ("__fish_seen_subcommand_from " ++ entry.1) entry.2)

end HeaderBindings.CommandLine
