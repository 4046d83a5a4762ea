import Gamebook.Commands.Command
import Gamebook.Commands.StatArgument

/-!
The command line. Options may stand before or after the name of the command; behind two dashes
everything is an argument. Arguments are read from left to right, and the first of them that is
wrong, or asks for help or for the version, decides.
-/

namespace Gamebook.CommandLine

/-- What a command line comes to, if it does not name a command to run. -/
inductive Stop where
  | usage
  | help
  /-- Asks for the version of the program, or of one of its commands. -/
  | version (name : String)
  deriving DecidableEq, Repr

/-- The options that every command has. -/
structure Globals where
  dataDir : Option String
  player : Option String
  deriving DecidableEq, Repr

/-- A command, and the options it is given. -/
structure Invocation where
  globals : Globals
  command : Command

/-- What an argument of a command has to be. -/
inductive Kind where
  | text
  /-- A place in a list. -/
  | index
  /-- A signed number, which may begin with a minus sign. -/
  | number
  deriving DecidableEq

/-- What an option of a command is: a flag, or a value that may be given several times. -/
inductive OptionKind where
  | flag
  | text
  | stat
  deriving DecidableEq

/-- The arguments and options of a command. -/
structure Shape where
  name : String
  arguments : List Kind
  options : List (String × OptionKind)

/-- The commands there are. -/
def shapes : List Shape :=
  [⟨"menu", [], []⟩,
   ⟨"stories", [], []⟩,
   ⟨"play", [.text], []⟩,
   ⟨"play-code", [.text], []⟩,
   ⟨"choose", [.index], []⟩,
   ⟨"resume", [], []⟩,
   ⟨"status", [], []⟩,
   ⟨"story-create", [.text, .text], []⟩,
   ⟨"story-addscene", [.text, .text], []⟩,
   ⟨"story-settext", [.text, .text, .text], []⟩,
   ⟨"story-addchoice", [.text, .text, .text, .text], []⟩,
   ⟨"story-publish", [.text], [("public", .flag), ("private", .flag)]⟩,
   ⟨"story-stat", [.text, .text, .number], []⟩,
   ⟨"story-item", [.text, .text], []⟩,
   ⟨"story-require", [.text, .text, .index], [("item", .text), ("stat", .stat)]⟩,
   ⟨"story-check", [.text], []⟩,
   ⟨"item-add", [.text], []⟩,
   ⟨"item-list", [], []⟩]

/-- What was read so far: global options, arguments, flags, and the values of options, all in their
order. -/
structure Gathered where
  globals : Globals
  arguments : List String
  flags : List String
  items : List String
  stats : List (String × Int64)

/-- An argument by its form. -/
inductive Form where
  /-- Two dashes alone. -/
  | separator
  /-- A long option, with the value behind an equals sign, if there is one. -/
  | long (name : String) (value : Option String)
  /-- Short options behind one dash. -/
  | short (letters : List Char)
  | plain

/-- The form of an argument. One dash alone is an argument like any other. -/
def Form.of (argument : String) : Form :=
  match argument.toList with
  | ['-', '-'] => .separator
  | '-' :: '-' :: cs =>
    match cs.dropWhile (· ≠ '=') with
    | [] => .long (String.ofList cs) none
    | _ :: value => .long (String.ofList (cs.takeWhile (· ≠ '='))) (some (String.ofList value))
  | '-' :: c :: cs => .short (c :: cs)
  | _ => .plain

/-- Whether an argument can be the value of the option before it. -/
def isValue (argument : String) : Bool :=
  match Form.of argument with
  | .plain => true
  | _ => false

/-- What short options come to: the first of them that is known decides, if none before it is
unknown. -/
def shortStop (name : String) : List Char → Stop
  | 'h' :: _ => .help
  | 'V' :: _ => .version name
  | _ => .usage

/-- Whether characters behind a minus sign are a number: digits, of which a point and the letter of
an exponent may come after the first; something has to follow that letter. -/
def isNumber (seenDot seenExponent first : Bool) : List Char → Bool
  | [] => true
  | c :: rest =>
    if c.isDigit then isNumber seenDot seenExponent false rest
    else if c = '.' then
      !seenDot && !seenExponent && !first && isNumber true seenExponent false rest
    else if c = 'e' then
      !seenExponent && !first && rest ≠ [] && isNumber seenDot true false rest
    else false

namespace Globals

/-- No option given. -/
def none : Globals := ⟨.none, .none⟩

/-- Gives an option a value, if it is an option of every command; it may be given once only, and the
folder of the library must not be empty. -/
def set (globals : Globals) (name value : String) : Option (Except Stop Globals) :=
  if name = "data-dir" then
    if globals.dataDir.isSome ∨ value = "" then some (.error .usage)
    else some (.ok { globals with dataDir := some value })
  else if name = "player" then
    if globals.player.isSome then some (.error .usage)
    else some (.ok { globals with player := some value })
  else .none

/-- Options given behind the name of a command count before those given in front of it. -/
def orElse (inner outer : Globals) : Globals :=
  ⟨inner.dataDir.or outer.dataDir, inner.player.or outer.player⟩

end Globals

/-- Whether a name is that of an option that every command has. -/
def isGlobal (name : String) : Bool :=
  name = "data-dir" || name = "player"

namespace Gathered

/-- Nothing read yet. -/
def none : Gathered := ⟨.none, [], [], [], []⟩

/-- Whether a text can be an argument of a kind. -/
def fits (kind : Kind) (value : String) : Bool :=
  match kind with
  | .text => true
  | .index => (Text.readIndex? value).isSome
  | .number => (Text.readInt64? value).isSome

/-- Adds the next argument, if the command has another one. -/
def addArgument (shape : Shape) (gathered : Gathered) (value : String) :
    Except Stop Gathered :=
  match shape.arguments[gathered.arguments.length]? with
  | some kind =>
    if fits kind value then .ok { gathered with arguments := gathered.arguments ++ [value] }
    else .error .usage
  | .none => .error .usage

/-- Adds the value of an option. -/
def addValue (shape : Shape) (gathered : Gathered) (name value : String) :
    Except Stop Gathered :=
  match gathered.globals.set name value with
  | some result => result.map fun globals => { gathered with globals := globals }
  | .none =>
    match Dict.lookup name shape.options with
    | some .text => .ok { gathered with items := gathered.items ++ [value] }
    | some .stat =>
      match parseStat value with
      | .ok stat => .ok { gathered with stats := gathered.stats ++ [stat] }
      | .error _ => .error .usage
    | _ => .error .usage

/-- Adds a flag, which may be given once only. -/
def addFlag (gathered : Gathered) (name : String) : Except Stop Gathered :=
  if name ∈ gathered.flags then .error .usage
  else .ok { gathered with flags := gathered.flags ++ [name] }

/-- Whether an argument is a negative number where the command awaits a number. Such an argument
stands for itself, also as the value of an option. -/
def isAwaited (shape : Shape) (gathered : Gathered) (argument : String) : Bool :=
  match Form.of argument with
  | .short letters =>
    shape.arguments[gathered.arguments.length]? = some .number && isNumber false false true letters
  | _ => false

/-- Reads what follows the name of a command. -/
def gather (shape : Shape) (gathered : Gathered) : List String → Except Stop Gathered
  | [] => .ok gathered
  | argument :: rest =>
    match Form.of argument with
    | .separator => rest.foldlM (addArgument shape) gathered
    | .plain => do
      let gathered ← gathered.addArgument shape argument
      gather shape gathered rest
    | .short letters =>
      if gathered.isAwaited shape argument then do
        let gathered ← gathered.addArgument shape argument
        gather shape gathered rest
      else .error (shortStop ("fable-" ++ shape.name) letters)
    | .long name value =>
      if name = "help" ∧ value = .none then .error .help
      else if name = "version" ∧ value = .none then .error (.version ("fable-" ++ shape.name))
      else if Dict.lookup name shape.options = some .flag then
        if value = .none then do
          let gathered ← gathered.addFlag name
          gather shape gathered rest
        else .error .usage
      else if ¬isGlobal name ∧ Dict.lookup name shape.options = .none then .error .usage
      else
        match value, rest with
        | some value, rest => do
          let gathered ← gathered.addValue shape name value
          gather shape gathered rest
        | .none, value :: rest =>
          if isValue value ∨ gathered.isAwaited shape value then do
            let gathered ← gathered.addValue shape name value
            gather shape gathered rest
          else .error .usage
        | .none, [] => .error .usage

/-- The command that was asked for, once everything is read; all its arguments have to be there. -/
def command? (shape : Shape) (gathered : Gathered) : Option Command :=
  match shape.name, gathered.arguments with
  | "menu", [] => some .menu
  | "stories", [] => some .stories
  | "play", [story] => some (.play story)
  | "play-code", [code] => some (.playCode code)
  | "choose", [index] => (Text.readIndex? index).map .choose
  | "resume", [] => some .resume
  | "status", [] => some .status
  | "story-create", [id, title] => some (.createStory id title)
  | "story-addscene", [id, scene] => some (.addScene id scene)
  | "story-settext", [id, scene, text] => some (.setText id scene text)
  | "story-addchoice", [id, scene, text, next] => some (.addChoice id scene text next)
  | "story-publish", [id] =>
    if gathered.flags = ["public"] then some (.publish id .listed)
    else if gathered.flags = ["private"] then some (.publish id .unlisted)
    else .none
  | "story-stat", [id, name, value] => (Text.readInt64? value).map (.setStat id name)
  | "story-item", [id, item] => some (.addStoryItem id item)
  | "story-require", [id, scene, index] =>
    (Text.readIndex? index).map fun index =>
      .require id scene index ⟨gathered.items, .ofList gathered.stats⟩
  | "story-check", [id] => some (.check id)
  | "item-add", [name] => some (.addItem name)
  | "item-list", [] => some .listItems
  | _, _ => .none

end Gathered

/-- Reads the arguments behind the word `help`: at most the name of one command. -/
def helpStop : List String → Stop
  | [] => .help
  | [name] => if name = "help" ∨ shapes.any (·.name = name) then .help else .usage
  | _ => .usage

/-- Reads a command line up to the name of a command, and then the rest for this command. -/
def parseFrom (globals : Globals) : List String → Except Stop Invocation
  | [] => .error .usage
  | argument :: rest =>
    match Form.of argument with
    | .separator => .error .usage
    | .plain =>
      match shapes.find? (·.name = argument) with
      | some shape => do
        let gathered ← Gathered.gather shape .none rest
        match gathered.command? shape with
        | some command => return ⟨gathered.globals.orElse globals, command⟩
        | none => throw .usage
      | none => .error (if argument = "help" then helpStop rest else .usage)
    | .short letters => .error (shortStop "fable" letters)
    | .long name value =>
      if name = "help" ∧ value = none then .error .help
      else if name = "version" ∧ value = none then .error (.version "fable")
      else
        match value, rest with
        | some value, rest =>
          match globals.set name value with
          | some (.ok globals) => parseFrom globals rest
          | _ => .error .usage
        | none, value :: rest =>
          if isValue value then
            match globals.set name value with
            | some (.ok globals) => parseFrom globals rest
            | _ => .error .usage
          else .error .usage
        | none, [] => .error .usage

/-- Reads a command line. -/
def parse (arguments : List String) : Except Stop Invocation :=
  parseFrom .none arguments

/-- The text that tells the version of the program or of one of its commands. -/
def versionLine (name : String) : String :=
  name ++ " 0.1.0"

end Gamebook.CommandLine
