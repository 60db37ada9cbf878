import AgentMemory.Model.ServerOptions

/-! # The start of the server

The command line is read twice, for the configuration file and for the options that override it. -/

namespace AgentMemory

/-! ## `server_options.cpp` -/

/-- The files of the host, and its parser for them. -/
structure StartupHost where
  readFile : Text → Option Text
  parseJson : Text → Option Json

def loadServerOptionsFile (host : StartupHost) (path : Text) : Except Thrown ServerOptions :=
  match host.readFile path with
  | none => .error (runtimeError (ascii "failed to open server config: " ++ path))
  | some text =>
      match (host.parseJson text).filter Json.isObject with
      | none => .error (runtimeError (ascii "invalid server config JSON: " ++ path))
      | some j => loadServerOptions j

/-! ## `server_cli.cpp` -/

/-- `std::from_chars` for an `int`: a minus sign and the digits behind it, with what is left. -/
def fromChars (s : Text) : Option (ℤ × Text) :=
  let negative := s.head? == some 45
  let unsigned := if negative then s.tail else s
  let digits := unsigned.takeWhile isDigit
  let value : ℤ := if negative then -(digitsValue digits : ℤ) else digitsValue digits
  if digits.isEmpty || !isInt value then none else some (value, unsigned.dropWhile isDigit)

def parsePort (value : Text) : Option ℤ := do
  let (parsed, rest) ← fromChars value
  if !rest.isEmpty || parsed < 1 || 65535 < parsed then none else some parsed

/-- What `RequireCliValue` says of an option that comes last. -/
def requiresValue (arg : Text) : Text :=
  arg ++ ascii " requires a value\n"

def hasHelpOption (args : List Text) : Bool :=
  args.any fun arg => arg == ascii "--help"

/-- The values of other options are not skipped. -/
def findConfigPath (configPath : Text) : List Text → Except Text Text
  | [] => .ok configPath
  | arg :: rest =>
      if arg = ascii "--config" then
        match rest with
        | [] => .error (requiresValue arg)
        | value :: rest => findConfigPath value rest
      else findConfigPath configPath rest

/-! ## `server_main.cpp` -/

/-- What `Run` comes to before `CreateServerSetup`, which may still throw. A refusal is told on the
error stream. -/
inductive Startup where
  | help
  | refused (message : Text)
  | serving (options : ServerOptions)

def applyArguments (options : ServerOptions) : List Text → Except Text ServerOptions
  | [] => .ok options
  | arg :: rest =>
      if arg = ascii "--config" then
        match rest with
        | [] => .error (requiresValue arg)
        | _ :: rest => applyArguments options rest
      else if arg = ascii "--host" then
        match rest with
        | [] => .error (requiresValue arg)
        | value :: rest => applyArguments { options with http.host := value } rest
      else if arg = ascii "--port" then
        match rest with
        | [] => .error (requiresValue arg)
        | value :: rest =>
            match parsePort value with
            | none => .error (ascii "invalid --port, expected 1-65535\n")
            | some port => applyArguments { options with http.port := port } rest
      else if arg = ascii "--data" then
        match rest with
        | [] => .error (requiresValue arg)
        | value :: rest => applyArguments { options with dataPath := value } rest
      else .error (ascii "unknown option: " ++ arg ++ ascii "\n")

namespace StartupHost

variable (host : StartupHost)

/-- The options before those of the command line. -/
def configured (configPath : Text) : Except Thrown ServerOptions :=
  if configPath.isEmpty then .ok {} else loadServerOptionsFile host configPath

/-- `Run` for the arguments behind the name of the program, up to `CreateServerSetup`. -/
def run (args : List Text) : Except Thrown Startup :=
  if hasHelpOption args then .ok .help
  else
    match findConfigPath [] args with
    | .error message => .ok (.refused message)
    | .ok configPath => do
        let options ← host.configured configPath
        match applyArguments options args with
        | .error message => .ok (.refused message)
        | .ok options => do
            validateServerOptions options true
            return .serving options

end StartupHost

end AgentMemory
