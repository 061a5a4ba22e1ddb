/-!
Reading the arguments of one level of a command line: options with two hyphens in front of a name,
flags with one hyphen in front of letters, and operands. The rules of a level say which options there
are; what breaks a rule is a usage error. An option that ends the reading, such as the one for help,
does so when it is reached, so an earlier error is the one that counts.
-/

namespace HeaderBindings.CommandLine

/-- Why a command line is not run. -/
inductive Refusal where
  | usage
  /-- Help is asked for, on a command or on the program. -/
  | help (command : Option String)
  | version
  deriving DecidableEq

/-- What may stand as the value of an option, or as an operand. -/
structure ValueRule where
  /-- What stands for the value in the help. -/
  label : String
  accepts : String → Bool := fun _ => true
  repeatable : Bool := false
  /-- Whether a separate value may look like an option. -/
  anyText : Bool := false

inductive OptionRole where
  | setting
  | help
  | version
  deriving DecidableEq

/-- An option; a flag has no value. -/
structure OptionRule where
  name : String
  about : String
  letter : Option Char := none
  value : Option ValueRule := none
  role : OptionRole := .setting

/-- The rules of one level: the program itself or a command. -/
structure Level where
  command : Option String := none
  about : String
  options : List OptionRule
  operand : Option ValueRule := none
  commands : List String := []

/-- What an option with a separate value still needs. -/
inductive Waiting where
  /-- Its value, the next argument. -/
  | value (rule : OptionRule) (valueRule : ValueRule)
  | check (rule : OptionRule) (value : String)

/-- What has been given on a level, in order. A flag has the empty text as its value. -/
structure Given where
  options : List (String × String) := []
  operand : Option String := none
  waiting : Option Waiting := none

namespace Given

def has (given : Given) (name : String) : Bool := given.options.any (·.1 == name)

/-- The value of an option that may be given once. -/
def value? (given : Given) (name : String) : Option String := given.options.lookup name

def values (given : Given) (name : String) : List String :=
  (given.options.filter (·.1 == name)).map (·.2)

end Given

namespace ValueRule

def text (label : String) : ValueRule := { label }

/-- A path, which is never empty. -/
def path (label : String) : ValueRule := { label, accepts := fun value => !value.isEmpty }

def oneOf (label : String) (words : List String) : ValueRule := { label, accepts := words.contains }

/-- Whether a separate argument can be meant as the value. -/
def mayBe (rule : ValueRule) (argument : String) : Bool :=
  rule.anyText || argument == "-" || !argument.startsWith "-"

end ValueRule

inductive ArgumentShape where
  /-- Two hyphens, behind which everything is an operand. -/
  | escape
  | long (name : String) (attached : Option String)
  | letters (letters : List Char)
  | plain (text : String)

def ArgumentShape.ofArgument (argument : String) : ArgumentShape :=
  match argument.toList with
  | ['-', '-'] => .escape
  | '-' :: '-' :: rest =>
      let name := String.ofList (rest.takeWhile (· != '='))
      match rest.dropWhile (· != '=') with
      | _ :: attached => .long name (some (String.ofList attached))
      | [] => .long name none
  | '-' :: first :: rest => .letters (first :: rest)
  | _ => .plain argument

namespace Level

def add (level : Level) (given : Given) (rule : OptionRule) (value : String) :
    Except Refusal Given :=
  match rule.role with
  | .help => .error (.help level.command)
  | .version => .error .version
  | .setting =>
      let accepted := match rule.value with
        | some valueRule => valueRule.accepts value
        | none => true
      let repeatable := match rule.value with
        | some valueRule => valueRule.repeatable
        | none => false
      if accepted && (repeatable || !given.has rule.name) then
        .ok { given with options := given.options ++ [(rule.name, value)] }
      else .error .usage

/-- Checks and notes the option that waits for it. -/
def settle (level : Level) (given : Given) : Except Refusal Given :=
  match given.waiting with
  | some (.check rule value) => level.add { given with waiting := none } rule value
  | some (.value ..) => .error .usage
  | none => .ok given

/-- Notes an option by its name, with the value attached to it. -/
def addLong (level : Level) (given : Given) (name : String) (attached : Option String) :
    Except Refusal Given :=
  match level.options.find? (·.name == name) with
  | none => .error .usage
  | some rule =>
      match rule.value, attached with
      | none, none => level.add given rule ""
      | none, some _ => .error .usage
      | some _, some value => level.add given rule value
      | some valueRule, none => .ok { given with waiting := some (.value rule valueRule) }

/-- Notes flags by their letters. -/
def addLetters (level : Level) (given : Given) : List Char → Except Refusal Given
  | [] => .ok given
  | letter :: rest =>
      match level.options.find? (·.letter == some letter) with
      | some rule => do addLetters level (← level.add given rule "") rest
      | none => .error .usage

/-- Notes an operand, of which there is at most one. -/
def addOperand (level : Level) (given : Given) (text : String) : Except Refusal Given :=
  match level.operand, given.operand with
  | some rule, none =>
      if rule.accepts text then .ok { given with operand := some text } else .error .usage
  | _, _ => .error .usage

/-- What is given on a level, and the command that follows with its arguments. -/
def read (level : Level) (given : Given) :
    List String → Except Refusal (Given × Option (String × List String))
  | [] => do pure (← level.settle given, none)
  | argument :: rest =>
      match given.waiting with
      | some (.value rule valueRule) =>
          if valueRule.mayBe argument then
            read level { given with waiting := some (.check rule argument) } rest
          else .error .usage
      | _ =>
          if level.commands.contains argument then .ok (given, some (argument, rest))
          else do
            let settled ← level.settle given
            match ArgumentShape.ofArgument argument with
            | .escape => pure (← rest.foldlM level.addOperand settled, none)
            | .letters letters => read level (← level.addLetters settled letters) rest
            | .plain text => read level (← level.addOperand settled text) rest
            | .long name attached => read level (← level.addLong settled name attached) rest

end Level

end HeaderBindings.CommandLine
