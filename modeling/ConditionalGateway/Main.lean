import ConditionalGateway.Config.Loading
import ConditionalGateway.Gateway.Basic
import ConditionalGateway.Options

/-!
# The command

Loads a configuration, builds the gateway that it describes and says what that
consists of. With `--check` it says only whether all of that succeeded.
-/

namespace ConditionalGateway

def readFile? (file : String) : IO (Option (List UInt8)) := do
  try
    let bytes ← IO.FS.readBinFile file
    return some bytes.toList
  catch _ => return none

def complain (message : String) : IO UInt32 := do
  IO.eprintln ("error: " ++ message)
  return 1

def describe (c : Config) : IO Unit := do
  IO.println ("listening on " ++ c.bindAddress)
  for b in c.branches do
    IO.println ("router " ++ Text.quoted b.name ++ ": " ++ b.spec.condition)
  IO.println ("forwarding to " ++ c.originUrl)

def run (o : Options) : IO UInt32 := do
  match Config.ofFile (← readFile? o.configFile) with
  | .error e => complain e.message
  | .ok c =>
    let (built, _) := Gateway.ofConfig c ({} : Pipeline.World Float)
    match built with
    | .error e => complain e.message
    | .ok _ =>
      if o.check then IO.println "Configuration is valid" else describe c
      return 0

end ConditionalGateway

open ConditionalGateway in
def main (arguments : List String) : IO UInt32 := do
  match Options.ofArguments arguments with
  | .error e => complain (e.message ++ "\n\n" ++ Options.usage)
  | .ok o =>
    if o.help then
      IO.println Options.usage
      return 0
    else run o
