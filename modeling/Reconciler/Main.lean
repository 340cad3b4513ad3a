import Reconciler.Operator
import Std.Time.DateTime.Timestamp
/-!
The program: it reads what the command line names, and sweeps until it is stopped.
-/

set_option autoImplicit false

open Reconciler

namespace Reconciler.Main

def faultOf (e : IO.Error) : FileFault :=
  match e with
  | .noFileOrDirectory .. => .missing
  | .inappropriateType .. => .directory
  | e => .other (toString e)

def readPath (path : String) : IO (String × Except FileFault String) := do
  try return (path, .ok (← IO.FS.readFile path))
  catch e => return (path, .error (faultOf e))

/-- The files that a run may ask for, and what came of reading them. -/
def readNamed (words : List String) (env : String → Option String) : IO FileReader := do
  let paths := match CommandLine.parse words env with
    | .run a => a.config.toList ++ a.manifest.toList
    | _ => []
  let contents ← paths.mapM readPath
  return fun path => (contents.lookup path).getD (.error .missing)

def readVariables : IO (String → Option String) := do
  let names := CommandLine.settings.filterMap (·.fromEnv)
  let values ← names.mapM fun name => do return (name, ← IO.getEnv name)
  return fun name => (values.lookup name).join

def present : IO Instant := do
  let nanos := (← Std.Time.Timestamp.now).toNanosecondsSinceUnixEpoch.val
  return ⟨nanos.fdiv 1000000000, (nanos.fmod 1000000000).toNat⟩

/-- Sweeps for ever, with a pause between two sweeps. -/
partial def sweepOn (p : Pace) (b : Bench) : IO UInt32 := do
  match Operator.sweep (← present) p b with
  | (.ok (), b) =>
    IO.sleep (min (p.interval.nanos / 1000000) 4294967295).toUInt32
    sweepOn p (b.advance p.interval)
  | (.error _, _) => return 101

def finish (e : Operator.Ending) : IO UInt32 := do
  e.said.forM IO.eprintln
  IO.print e.output
  e.complaint.forM IO.eprintln
  return e.code.toUInt32

def run (words : List String) : IO UInt32 := do
  let env ← readVariables
  let read ← readNamed words env
  match Operator.start words env read (← present) with
  | .standalone said p b =>
    said.forM IO.eprintln
    sweepOn p b
  | .ended e => finish e
  | .attached said _ => finish (.failed said (.unavailable "no cluster is configured"))

end Reconciler.Main

def main (words : List String) : IO UInt32 := Main.run words
