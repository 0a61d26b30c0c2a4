/-!
# Command line

The options of the command. Each can be given once; an option with a value takes
the next argument, or what follows an equals sign, or, in its short form, what
follows the letter.
-/

namespace ConditionalGateway

structure Options where
  /-- The file with the configuration. -/
  config : Option String := none
  /-- Only checks the configuration. -/
  check : Bool := false
  help : Bool := false
  deriving DecidableEq, Repr, Inhabited

inductive UsageError where
  | unexpected (argument : String)
  | missingValue
  | repeated (option : String)
  deriving DecidableEq, Repr

def UsageError.message : UsageError → String
  | .unexpected argument => "unexpected argument '" ++ argument ++ "' found"
  | .missingValue => "a value is required for '--config <CONFIG>' but none was supplied"
  | .repeated option => "the argument '" ++ option ++ "' cannot be used multiple times"

namespace Options

def defaultConfig : String := "branching.toml"

def configFile (o : Options) : String := o.config.getD defaultConfig

def usage : String := "Usage: conditional-gateway [--config <CONFIG>] [--check]"

def setConfig (o : Options) (file : String) : Except UsageError Options :=
  match o.config with
  | some _ => .error (.repeated "--config <CONFIG>")
  | none => if file.isEmpty then .error .missingValue else .ok { o with config := some file }

def attached? (argument : String) : Option String :=
  match argument.toList with
  | '-' :: '-' :: 'c' :: 'o' :: 'n' :: 'f' :: 'i' :: 'g' :: '=' :: file => some (String.ofList file)
  | '-' :: 'c' :: '=' :: file => some (String.ofList file)
  | '-' :: 'c' :: c :: file => some (String.ofList (c :: file))
  | _ => none

def readFrom (o : Options) : List String → Except UsageError Options
  | [] => .ok o
  | "--check" :: rest => if o.check then .error (.repeated "--check") else
      readFrom { o with check := true } rest
  | "--help" :: _ => .ok { o with help := true }
  | "-h" :: _ => .ok { o with help := true }
  | "--config" :: file :: rest => do readFrom (← o.setConfig file) rest
  | "-c" :: file :: rest => do readFrom (← o.setConfig file) rest
  | argument :: rest =>
    match attached? argument with
    | some file => do readFrom (← o.setConfig file) rest
    | none =>
      if argument = "--config" ∨ argument = "-c" then .error .missingValue
      else .error (.unexpected argument)

def ofArguments (arguments : List String) : Except UsageError Options := readFrom {} arguments

end Options
end ConditionalGateway
