/-
  Arguments of the command line.

  Arguments are read from left to right into items: options with their values,
  options that the program does not have, and positionals. A long option may be
  cut short as long as it is the beginning of one option only. Options that the
  program does not have are remembered while reading, and a later argument may
  be short for one of them; that they occurred at all is a mistake only in the
  end.
-/
import NodeScript.Text.Bytes

namespace NodeScript

/-! ### The options of the program -/

/-- The options of the program. -/
inductive OptionName where
  | command
  | interactive
  | stdin
  | config
  | dir
  | logFile
  | logLevel
  | out
  | help
  | version
  deriving DecidableEq

namespace OptionName

/-- All options, in the order in which they are declared. -/
def all : List OptionName :=
  [.command, .interactive, .stdin, .config, .dir, .logFile, .logLevel, .out, .help, .version]

/-- The long form of an option. -/
def long : OptionName → Bytes
  | .command => utf8 "--command"
  | .interactive => utf8 "--interactive"
  | .stdin => utf8 "--stdin"
  | .config => utf8 "--config"
  | .dir => utf8 "--dir"
  | .logFile => utf8 "--log-file"
  | .logLevel => utf8 "--log-level"
  | .out => utf8 "--out"
  | .help => utf8 "--help"
  | .version => utf8 "--version"

/-- The letter of the short form of an option, if it has one. -/
def short? : OptionName → Option UInt8
  | .command => some 'c'.toUInt8
  | .interactive => some 'i'.toUInt8
  | .stdin => some 's'.toUInt8
  | .help => some 'h'.toUInt8
  | .version => some 'v'.toUInt8
  | _ => none

/-- Whether an option takes a value. -/
def takesValue : OptionName → Bool
  | .interactive | .stdin | .help | .version => false
  | _ => true

/-- The option with the given letter, if there is one. -/
def ofShort? (b : UInt8) : Option OptionName := all.find? (·.short? == some b)

end OptionName

/-! ### Items -/

/-- What an argument, or two that belong together, means. -/
inductive Item where
  /-- An option, with its value if it takes one. -/
  | given (name : OptionName) (value : Bytes)
  /-- An option that the program does not have. -/
  | stranger
  /-- An argument that is no option. -/
  | positional (text : Bytes)
  deriving DecidableEq

/-- Why the arguments cannot be understood. -/
inductive UsageMistake where
  /-- The beginning of several options. -/
  | ambiguous (given : Bytes) (candidates : List Bytes)
  /-- A value for an option that takes none. -/
  | needless (long : Bytes)
  /-- No value for an option that takes one. -/
  | lacking (name : Bytes)
  /-- Options and positionals that do not go together. -/
  | mismatch
  deriving DecidableEq

/-- The wording of a mistake, before the usage. -/
def UsageMistake.text : UsageMistake → Bytes
  | .ambiguous given candidates =>
    given ++ utf8 " is not a unique prefix: " ++ Bytes.join (utf8 ", ") candidates ++ utf8 "?"
  | .needless long => long ++ utf8 " must not have an argument"
  | .lacking name => name ++ utf8 " requires argument"
  | .mismatch => []

/-! ### Long options -/

/-- A long option that an argument can stand for: one of the program's, or one
that the program does not have and that was met before, with or without a
value. -/
inductive LongOption where
  | known (name : OptionName)
  | met (long : Bytes) (takesValue : Bool)
  deriving DecidableEq

namespace LongOption

/-- The text of a long option. -/
def long : LongOption → Bytes
  | .known name => name.long
  | .met long _ => long

/-- Whether a long option takes a value. -/
def takesValue : LongOption → Bool
  | .known name => name.takesValue
  | .met _ takes => takes

/-- The item that an occurrence of a long option is. -/
def item (value : Bytes) : LongOption → Item
  | .known name => .given name value
  | .met _ _ => .stranger

/-- The options that a text stands for: the one it spells, or else those it is
the beginning of. -/
def candidates (options : List LongOption) (given : Bytes) : List LongOption :=
  match options.filter (·.long == given) with
  | [] => options.filter fun o => given.isPrefixOf o.long
  | spelled => spelled

end LongOption

/-- The long options of the program. -/
def programOptions : List LongOption := OptionName.all.map .known

/-- The parts of an argument before and after its first `=`. -/
def splitValue (arg : Bytes) : Bytes × Option Bytes :=
  match Bytes.cutAt? equalsSign arg with
  | some (name, value) => (name, some value)
  | none => (arg, none)

/-! ### Short options -/

/-- Reads the letters of an argument with short options. An option that takes a
value takes the rest of the letters; if there are none, its letter is handed
back, because the value is the next argument. -/
def readShorts : Bytes → List Item × Option (OptionName × UInt8)
  | [] => ([], none)
  | b :: left =>
    match OptionName.ofShort? b with
    | none =>
      let (items, wanting) := readShorts left
      (.stranger :: items, wanting)
    | some name =>
      if name.takesValue then
        if left.isEmpty then ([], some (name, b)) else ([.given name left], none)
      else
        let (items, wanting) := readShorts left
        (.given name [] :: items, wanting)

/-! ### All arguments -/

/-- The argument after which everything is positional. -/
def terminator : Bytes := [hyphen, hyphen]

/-- Reads the arguments. `options` are the long options an argument can stand
for, those met before included. -/
def readItems (options : List LongOption) : List Bytes → Except UsageMistake (List Item)
  | [] => .ok []
  | arg :: args =>
    if arg = terminator then .ok ((arg :: args).map .positional)
    else if terminator.isPrefixOf arg then
      let (given, value?) := splitValue arg
      match LongOption.candidates options given with
      | [] => do
        let items ← readItems (options ++ [.met given value?.isSome]) args
        return .stranger :: items
      | [o] =>
        match o.takesValue, value? with
        | false, some _ => .error (.needless o.long)
        | false, none => do return o.item [] :: (← readItems options args)
        | true, some value => do return o.item value :: (← readItems options args)
        | true, none =>
          match args with
          | [] => .error (.lacking o.long)
          | value :: args =>
            if value = terminator then .error (.lacking o.long)
            else do return o.item value :: (← readItems options args)
      | several => .error (.ambiguous given (several.map (·.long)))
    else if arg.head? = some hyphen ∧ arg ≠ [hyphen] then
      let (items, wanting) := readShorts (arg.dropWhile (· == hyphen))
      match wanting with
      | none => do return items ++ (← readItems options args)
      | some (name, letter) =>
        match args with
        | [] => .error (.lacking [hyphen, letter])
        | value :: args =>
          if value = terminator then .error (.lacking [hyphen, letter])
          else do return items ++ .given name value :: (← readItems options args)
    else do return .positional arg :: (← readItems options args)

end NodeScript
