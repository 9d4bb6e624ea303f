/-
**What a command line says.**

Options stand before the name of the command, each at most once; what comes after the name belongs to the command.
An option takes its value from the rest of its own argument or from the next one, which must not look like an
option. After two dashes everything is taken as it is.

* `CommandLine.parse`: the request of the arguments, or a fault.
-/

import StreamWatch.Number.Decimal

namespace StreamWatch.CommandLine

/-- How log lines are written. -/
inductive LogFormat where
  | text
  | json
deriving DecidableEq, Inhabited, Repr

/-- What the program is to do. -/
inductive Command where
  /-- to run tasks until it is interrupted -/
  | serve
  /-- to run one task once -/
  | run (taskId : String)
  | probe (url : String)
  /-- to rank the streams of a channel, and perhaps to put them in that order -/
  | order (channelId : Int) (apply : Bool)
deriving DecidableEq, Inhabited, Repr

/-- A command with the options before it. -/
structure Invocation where
  settingsPath : Option String := none
  logLevel : Option String := none
  logFormat : Option LogFormat := none
  /-- whether records are kept in memory only -/
  isEphemeral : Bool := false
  command : Command := .serve
deriving DecidableEq, Inhabited, Repr

/-- What arguments ask for. -/
inductive Request where
  | invoke (invocation : Invocation)
  /-- to be told how the program, or one of its commands, is used -/
  | help (command : Option String)
  | version
deriving DecidableEq, Inhabited, Repr

/-- What is wrong with arguments. -/
inductive UsageFault where
  | unknownArgument (argument : String)
  | repeatedArgument (option : String)
  | missingValue (option : String)
  | badValue (value option : String)
  | unwantedValue (option : String)
  | missingArgument (name : String)
deriving DecidableEq, Inhabited, Repr

/-- What is wrong, in words. -/
def UsageFault.message : UsageFault → String
  | unknownArgument argument => s!"unexpected argument '{argument}' found"
  | repeatedArgument option => s!"the argument '{option}' cannot be used multiple times"
  | missingValue option => s!"a value is required for '{option}' but none was supplied"
  | badValue value option => s!"invalid value '{value}' for '{option}'"
  | unwantedValue option => s!"unexpected value for '{option}' found; no more were expected"
  | missingArgument name => s!"the following required arguments were not provided: {name}"

/-- What the parts of an argument are. -/
inductive Shape where
  /-- two dashes alone -/
  | dashes
  /-- a long option, and the value after an equals sign -/
  | long (name : String) (value : Option String)
  /-- one dash and letters -/
  | short (letters : List Char)
  | plain (text : String)

/-- The parts of an argument. A dash alone is a plain text. -/
def shapeOf (argument : String) : Shape :=
  match argument.toList with
  | ['-', '-'] => .dashes
  | '-' :: '-' :: rest =>
    let name := rest.takeWhile (· != '=')
    match rest.dropWhile (· != '=') with
    | [] => .long (String.ofList name) none
    | _ :: value => .long (String.ofList name) (some (String.ofList value))
  | '-' :: c :: rest => .short (c :: rest)
  | _ => .plain argument

/-- The options before the name of a command. -/
inductive Switch where
  | settings
  | logLevel
  | logFormat
  | ephemeral
  | help
  | version
deriving DecidableEq, Repr

namespace Switch

/-- The option as messages show it. -/
def shown : Switch → String
  | settings => "--config <CONFIG>"
  | logLevel => "--log-level <LOG_LEVEL>"
  | logFormat => "--log-format <LOG_FORMAT>"
  | ephemeral => "--ephemeral"
  | help => "--help"
  | version => "--version"

/-- The option of a long name. -/
def ofName? : String → Option Switch
  | "config" => some settings
  | "log-level" => some logLevel
  | "log-format" => some logFormat
  | "ephemeral" => some ephemeral
  | "help" => some help
  | "version" => some version
  | _ => none

/-- The option of a letter. -/
def ofLetter? : Char → Option Switch
  | 'c' => some settings
  | 'v' => some logLevel
  | 'h' => some help
  | 'V' => some version
  | _ => none

/-- Whether an option takes a value. -/
def takesValue : Switch → Bool
  | settings | logLevel | logFormat => true
  | _ => false

end Switch

/-- The invocation with an option given a value, once. -/
def Invocation.give (invocation : Invocation) (switch : Switch) (value : String) :
    Except UsageFault Invocation :=
  match switch with
  | .settings =>
    if invocation.settingsPath.isSome then .error (.repeatedArgument switch.shown)
    else .ok { invocation with settingsPath := some value }
  | .logLevel =>
    if invocation.logLevel.isSome then .error (.repeatedArgument switch.shown)
    else .ok { invocation with logLevel := some value }
  | .logFormat =>
    if invocation.logFormat.isSome then .error (.repeatedArgument switch.shown)
    else
      match value with
      | "text" => .ok { invocation with logFormat := some .text }
      | "json" => .ok { invocation with logFormat := some .json }
      | _ => .error (.badValue value switch.shown)
  | _ => .error (.unwantedValue switch.shown)

/-- What an option without a value does: it changes the invocation or ends the reading. -/
def Invocation.set (invocation : Invocation) : Switch → Except UsageFault (Invocation ⊕ Request)
  | .help => .ok (.inr (.help none))
  | .version => .ok (.inr .version)
  | .ephemeral =>
    if invocation.isEphemeral then .error (.repeatedArgument Switch.ephemeral.shown)
    else .ok (.inl { invocation with isEphemeral := true })
  | switch => .error (.missingValue switch.shown)

/-- What the letters after one dash say. The letters after an option that takes a value are the value; when there
are none the option still waits for it. -/
def readLetters (invocation : Invocation) : List Char → Except UsageFault (Invocation ⊕ Request ⊕ Switch)
  | [] => .ok (.inl invocation)
  | c :: rest =>
    match Switch.ofLetter? c with
    | none => .error (.unknownArgument (String.ofList ['-', c]))
    | some switch =>
      if switch.takesValue then
        match rest with
        | [] => .ok (.inr (.inr switch))
        | '=' :: value => (invocation.give switch (String.ofList value)).map .inl
        | value => (invocation.give switch (String.ofList value)).map .inl
      else do
        match ← invocation.set switch with
        | .inl invocation => readLetters invocation rest
        | .inr request => return .inr (.inl request)

/-- What a long option says. -/
def readLong (invocation : Invocation) (name : String) (value : Option String) :
    Except UsageFault (Invocation ⊕ Request ⊕ Switch) :=
  match Switch.ofName? name, value with
  | none, _ => .error (.unknownArgument ("--" ++ name))
  | some switch, some value => (invocation.give switch value).map .inl
  | some switch, none =>
    if switch.takesValue then .ok (.inr (.inr switch))
    else do
      match ← invocation.set switch with
      | .inl invocation => return .inl invocation
      | .inr request => return .inr (.inl request)

/-! ### Commands -/

/-- What stands after the name of a command. -/
structure Operands where
  words : List String := []
  apply : Bool := false

/-- The names of the commands. -/
def commandNames : List String := ["serve", "run", "probe", "order"]

/-- Reads what stands after the name of a command, which takes so many words. -/
def readOperands (command : String) (words : Nat) (given : Operands) (isRaw : Bool) :
    List String → Except UsageFault (Operands ⊕ Request)
  | [] => .ok (.inl given)
  | argument :: rest =>
    let word (text : String) : Except UsageFault (Operands ⊕ Request) :=
      if given.words.length < words then
        readOperands command words { given with words := given.words ++ [text] } isRaw rest
      else .error (.unknownArgument text)
    if isRaw then word argument
    else
      match shapeOf argument with
      | .dashes => readOperands command words given true rest
      | .plain text => word text
      | .long "help" none => .ok (.inr (.help (some command)))
      | .short ('h' :: _) => .ok (.inr (.help (some command)))
      | .long "apply" none =>
        if command = "order" then
          if given.apply then .error (.repeatedArgument "--apply")
          else readOperands command words { given with apply := true } isRaw rest
        else .error (.unknownArgument argument)
      | _ => .error (.unknownArgument argument)

/-- The one word of a command. -/
def oneWord (name : String) (operands : Operands) : Except UsageFault String :=
  match operands.words with
  | word :: _ => .ok word
  | [] => .error (.missingArgument name)

/-- The command of a name with what stands after it. -/
def readCommand (name : String) (arguments : List String) : Except UsageFault (Command ⊕ Request) := do
  match ← readOperands name (if name = "serve" then 0 else 1) {} false arguments with
  | .inr request => return .inr request
  | .inl operands =>
    match name with
    | "run" => return .inl (.run (← oneWord "<TASK_ID>" operands))
    | "probe" => return .inl (.probe (← oneWord "<URL>" operands))
    | "order" =>
      let word ← oneWord "<CHANNEL_ID>" operands
      match Number.signedWord? word.toList with
      | some id => return .inl (.order id operands.apply)
      | none => throw (.badValue word "<CHANNEL_ID>")
    | _ => return .inl .serve

/-- The command about which help is asked for. -/
def readHelp : List String → Except UsageFault Request
  | [] => .ok (.help none)
  | name :: rest =>
    if !(commandNames.contains name || name = "help") then .error (.unknownArgument name)
    else
      match rest with
      | [] => .ok (.help (some name))
      | argument :: _ => .error (.unknownArgument argument)

/-- Reads arguments; an option may wait for its value. -/
def readArguments (invocation : Invocation) (waiting : Option Switch) :
    List String → Except UsageFault Request
  | [] =>
    match waiting with
    | some switch => .error (.missingValue switch.shown)
    | none => .ok (.invoke invocation)
  | argument :: rest =>
    let goOn (step : Except UsageFault (Invocation ⊕ Request ⊕ Switch)) : Except UsageFault Request := do
      match ← step with
      | .inl invocation => readArguments invocation none rest
      | .inr (.inl request) => return request
      | .inr (.inr switch) => readArguments invocation (some switch) rest
    match shapeOf argument, waiting with
    | .plain text, some switch => goOn ((invocation.give switch text).map .inl)
    | _, some switch => .error (.missingValue switch.shown)
    | .dashes, none =>
      match rest with
      | [] => .ok (.invoke invocation)
      | text :: _ => .error (.unknownArgument text)
    | .long name value, none => goOn (readLong invocation name value)
    | .short letters, none => goOn (readLetters invocation letters)
    | .plain name, none =>
      if name = "help" then readHelp rest
      else if commandNames.contains name then do
        match ← readCommand name rest with
        | .inl command => return .invoke { invocation with command }
        | .inr request => return request
      else .error (.unknownArgument name)

/-- What the arguments of the program ask for. -/
def parse (arguments : List String) : Except UsageFault Request := readArguments {} none arguments

end StreamWatch.CommandLine
