import CodePlayground.File.Path

/-!
What the command line asks for. Options may stand before the task and after it; after the task they
win. A long option takes its value after an equals sign or as the next argument, a short one also
directly, and after a double dash nothing is an option any more.
-/

namespace CodePlayground.CommandLine

inductive Topic where
  | list
  | show_
  | run
  | repl
  deriving DecidableEq, Repr

/-- What help can be asked on. -/
inductive Subject where
  | overview
  | topic (topic : Topic)
  /-- Help itself. -/
  | help
  deriving DecidableEq, Repr

def Topic.ofWord? (word : String) : Option Topic :=
  match word with
  | "list" => some .list
  | "show" => some .show_
  | "run" => some .run
  | "repl" => some .repl
  | _ => none

/-- How many arguments of its own a task takes at most. -/
def Topic.capacity : Topic → Nat
  | .list => 0
  | .show_ | .run | .repl => 1

inductive Task where
  | list
  | show_ (id : String)
  /-- Runs a sample, the first one by default. -/
  | run (id : Option String)
  | runFile (path : Path)
  | repl (fragment : String)
  deriving DecidableEq, Repr

structure Options where
  config : Option Path
  task : Task
  deriving DecidableEq, Repr

/-- Why there are no options. -/
inductive Stop where
  | version
  | help (subject : Subject)
  | misuse
  deriving DecidableEq, Repr

/-- An option with a value. -/
inductive Key where
  | config
  | file
  deriving DecidableEq, Repr

/-- What has been read before the task or after it. -/
structure Flags where
  config : Option Path := none
  file : Option Path := none
  words : List String := []
  deriving DecidableEq, Repr

/-- What the next argument counts as. -/
inductive Waiting where
  | free
  | value (key : Key)
  /-- After a double dash. -/
  | word
  deriving DecidableEq, Repr

/-- Sets an option, which may be set once and not to an empty path. -/
def Flags.set (flags : Flags) (key : Key) (value : List Char) : Except Stop Flags :=
  if value.isEmpty then .error .misuse
  else
    match key, flags.config, flags.file with
    | .config, none, _ => .ok { flags with config := some (String.ofList value) }
    | .file, _, none => .ok { flags with file := some (String.ofList value) }
    | _, _, _ => .error .misuse

/-- What an option leads to: its value is there already or comes next. -/
def Flags.setOrWait (flags : Flags) (key : Key) (value : Option (List Char)) :
    Except Stop (Flags × Waiting) :=
  match value with
  | none => .ok (flags, .value key)
  | some value => (flags.set key value).map (·, .free)

/-- What help is about before the task and after it. -/
def Subject.of (topic : Option Topic) : Subject :=
  (topic.map .topic).getD .overview

/-- Reads short options that stand together. -/
def shortOptions (topic : Option Topic) (flags : Flags) :
    List Char → Except Stop (Flags × Waiting)
  | [] => .ok (flags, .free)
  | c :: rest =>
    let value : Option (List Char) :=
      match rest with
      | [] => none
      | '=' :: value => some value
      | value => some value
    if c = 'v' then shortOptions topic flags rest
    else if c = 'h' then .error (.help (.of topic))
    else if c = 'V' && topic.isNone then .error .version
    else if c = 'c' then flags.setOrWait .config value
    else if c = 'f' && topic = some .run then flags.setOrWait .file value
    else .error .misuse

def longOption (topic : Option Topic) (flags : Flags) (option : List Char) :
    Except Stop (Flags × Waiting) :=
  let name := String.ofList (option.takeWhile (· ≠ '='))
  let value : Option (List Char) :=
    match option.dropWhile (· ≠ '=') with
    | [] => none
    | _ :: value => some value
  match name, value with
  | "config", value => flags.setOrWait .config value
  | "file", value =>
    if topic = some .run then flags.setOrWait .file value else .error .misuse
  | "verbose", none => .ok (flags, .free)
  | "help", none => .error (.help (.of topic))
  | "version", none => .error (if topic.isNone then .version else .misuse)
  | _, _ => .error .misuse

/-- Whether an argument looks like options; a single dash does not. -/
def isOption (argument : String) : Bool :=
  match argument.toList with
  | '-' :: _ :: _ => true
  | _ => false

/-- Reads an argument that looks like options; a double dash ends them. -/
def readOption (topic : Option Topic) (flags : Flags) (argument : String) :
    Except Stop (Flags × Waiting) :=
  match argument.toList with
  | ['-', '-'] => .ok (flags, .word)
  | '-' :: '-' :: option => longOption topic flags option
  | '-' :: options => shortOptions topic flags options
  | _ => .error .misuse

def addWord (topic : Topic) (flags : Flags) (word : String) : Except Stop Flags :=
  if flags.words.length < topic.capacity then .ok { flags with words := flags.words ++ [word] }
  else .error .misuse

/-- Reads what stands after the task. -/
def readTask (topic : Topic) : Waiting → Flags → List String → Except Stop Flags
  | .value _, _, [] => .error .misuse
  | _, flags, [] => .ok flags
  | .value key, flags, argument :: rest =>
    if isOption argument then .error .misuse
    else
      match flags.set key argument.toList with
      | .ok flags => readTask topic .free flags rest
      | .error stop => .error stop
  | .word, flags, argument :: rest =>
    match addWord topic flags argument with
    | .ok flags => readTask topic .word flags rest
    | .error stop => .error stop
  | .free, flags, argument :: rest =>
    if isOption argument then
      match readOption (some topic) flags argument with
      | .ok (flags, waiting) => readTask topic waiting flags rest
      | .error stop => .error stop
    else
      match addWord topic flags argument with
      | .ok flags => readTask topic .free flags rest
      | .error stop => .error stop

/-- The task with its arguments; an id and a file exclude each other. -/
def taskOf (topic : Topic) (flags : Flags) : Except Stop Task :=
  match topic, flags.words, flags.file with
  | .list, _, _ => .ok .list
  | .show_, [id], _ => .ok (.show_ id)
  | .run, [], none => .ok (.run none)
  | .run, [id], none => .ok (.run (some id))
  | .run, [], some path => .ok (.runFile path)
  | .repl, [], _ => .ok (.repl "")
  | .repl, [fragment], _ => .ok (.repl fragment)
  | _, _, _ => .error .misuse

/-- The subject that help is asked on. -/
def helpOn : List String → Stop
  | [] => .help .overview
  | ["help"] => .help .help
  | [word] => ((Topic.ofWord? word).map fun topic => Stop.help (.topic topic)).getD .misuse
  | _ => .misuse

/-- Reads what stands before the task, and then the task. -/
def read : Waiting → Flags → List String → Except Stop Options
  | _, _, [] => .error .misuse
  | .value key, flags, argument :: rest =>
    if isOption argument then .error .misuse
    else
      match flags.set key argument.toList with
      | .ok flags => read .free flags rest
      | .error stop => .error stop
  | .word, _, _ :: _ => .error .misuse
  | .free, flags, argument :: rest =>
    if isOption argument then
      match readOption none flags argument with
      | .ok (flags, waiting) => read waiting flags rest
      | .error stop => .error stop
    else if argument = "help" then .error (helpOn rest)
    else
      match Topic.ofWord? argument with
      | none => .error .misuse
      | some topic => do
        let after ← readTask topic .free {} rest
        let task ← taskOf topic after
        return ⟨after.config.or flags.config, task⟩

def Options.ofArguments (arguments : List String) : Except Stop Options :=
  read .free {} arguments

end CodePlayground.CommandLine
