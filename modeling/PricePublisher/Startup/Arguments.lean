import PricePublisher.Settings.Keys

/-!
# Command lines

The program takes the paths of two files, each as an option or from the
environment.  An option is written short or long, with its value behind it, after
`=`, or, for a short one, directly attached.
-/

namespace PricePublisher.Startup

/-- The paths of the files to start from. -/
structure Arguments where
  settingsPath : String
  keysPath : String
deriving DecidableEq, Repr

/-- What a command line asks for. -/
inductive CommandLine where
  | run (arguments : Arguments)
  | help
  /-- It cannot be understood. -/
  | usage
deriving DecidableEq, Repr

/-- The options that take a path. -/
inductive PathOption where
  | settings
  | keys
deriving DecidableEq, Repr

/-- The path of the keys file, unless told otherwise. -/
def defaultKeysPath : String := "keys.json"

/-- What has been read of a command line. -/
structure Given where
  settingsPath : Option String
  keysPath : Option String
deriving DecidableEq, Repr

namespace Given

/-- Nothing has been read. -/
def nothing : Given := ⟨none, none⟩

/-- Take in a path; it must not be empty, and an option may be given once only. -/
def set? (given : Given) (option : PathOption) (path : String) : Option Given :=
  if path.isEmpty then none
  else
    match option with
    | .settings =>
        if given.settingsPath.isSome then none else some { given with settingsPath := path }
    | .keys =>
        if given.keysPath.isSome then none else some { given with keysPath := path }

end Given

/-- An argument that is an option. -/
inductive Argument where
  | help
  /-- The value is the next argument. -/
  | bare (option : PathOption)
  | valued (option : PathOption) (path : String)
deriving DecidableEq, Repr

/-- The option of a long name. -/
def PathOption.ofLongName? : String → Option PathOption
  | "config-file-path" => some .settings
  | "keys-file-path" => some .keys
  | _ => none

/-- The option of a letter. -/
def PathOption.ofLetter? : Char → Option PathOption
  | 'c' => some .settings
  | 'k' => some .keys
  | _ => none

/-- A value behind a letter, of which a leading `=` is no part. -/
def attachedValue : List Char → String
  | '=' :: rest => String.ofList rest
  | rest => String.ofList rest

/-- Read an argument as an option. -/
def Argument.ofChars? : List Char → Option Argument
  | '-' :: '-' :: long =>
      if long = "help".toList then some .help
      else
        let name := long.takeWhile (· != '=')
        match PathOption.ofLongName? (String.ofList name), long.dropWhile (· != '=') with
        | some option, [] => some (.bare option)
        | some option, _ :: value => some (.valued option (String.ofList value))
        | none, _ => none
  | '-' :: 'h' :: _ => some .help
  | ['-', letter] => (PathOption.ofLetter? letter).map .bare
  | '-' :: letter :: rest =>
      (PathOption.ofLetter? letter).map fun option => .valued option (attachedValue rest)
  | _ => none

/-- Whether an argument may be the value of an option before it. -/
def mayBeValue (argument : String) : Bool :=
  argument = "-" || !argument.startsWith "-"

/-- Read options in order. -/
def readOptions (given : Given) : List String → Except CommandLine Given
  | [] => .ok given
  | argument :: rest =>
      match Argument.ofChars? argument.toList with
      | none => .error .usage
      | some .help => .error .help
      | some (.valued option path) =>
          match given.set? option path with
          | none => .error .usage
          | some next => readOptions next rest
      | some (.bare option) =>
          match rest with
          | [] => .error .usage
          | path :: others =>
              if mayBeValue path then
                match given.set? option path with
                | none => .error .usage
                | some next => readOptions next others
              else .error .usage

/-- The name of the variable with the path of the settings file. -/
def settingsPathVariable : String := Settings.environmentFront ++ "CONFIG_FILE_PATH"

/-- The name of the variable with the path of the keys file. -/
def keysPathVariable : String := Settings.environmentFront ++ "KEYS_FILE_PATH"

/-- Read a command line, without the program's name, in an environment. -/
def CommandLine.read (arguments : List String) (environment : Settings.Environment) :
    CommandLine :=
  match readOptions .nothing arguments with
  | .error other => other
  | .ok given =>
      let settingsPath := given.settingsPath <|> environment settingsPathVariable
      let keysPath := given.keysPath <|> environment keysPathVariable
      match settingsPath, keysPath.getD defaultKeysPath with
      | none, _ => .usage
      | some settings, keys =>
          if settings.isEmpty || keys.isEmpty then .usage else .run ⟨settings, keys⟩

end PricePublisher.Startup
