import LayerAtlas.Program
import Std.Time.DateTime.Timestamp

namespace LayerAtlas

def attempt {α : Type} (action : IO α) : IO (Option α) := do
  try
    return some (← action)
  catch _ =>
    return none

def systemDisk : Disk IO where
  real path := attempt do
    return toString (← IO.FS.realPath path)
  names path := do
    let some real ← attempt (IO.FS.realPath path) | return none
    unless ← real.isDir do
      return none
    try
      let entries ← real.readDir
      return some (.ok (entries.map IO.FS.DirEntry.fileName).toList)
    catch e =>
      return some (.error (toString e))
  file path := attempt do
    let real ← IO.FS.realPath path
    let found ← real.metadata
    unless found.type matches .file do
      throw (IO.userError path)
    let text ← attempt (IO.FS.readFile real)
    return { modified := found.modified.sec * 1000000000 + found.modified.nsec.toNat, text }

def systemNow : IO Instant := do
  let nanos := (← Std.Time.Timestamp.now).toNanosecondsSinceUnixEpoch.val
  match Instant.of? (nanos / 1000000000) (nanos % 1000000000).toNat with
  | some t => return t
  | none => throw (IO.userError "the clock is out of range")

def usage : String :=
  "WMS layer catalog with background refresh\n\n" ++
  "Usage: wms-catalog [OPTIONS]\n\n" ++
  "Options:\n" ++
  "  -c, --config <CONFIG>        Catalog configuration file (YAML) " ++
  "[env: WMS_CATALOG_CONFIG=]\n" ++
  "      --root <ROOT>            Layer definition root, overrides the configuration\n" ++
  "      --inventory <INVENTORY>  Metadata inventory file, overrides the configuration\n" ++
  "      --once                   Build the catalog once, print it and exit\n" ++
  "      --log-level <LOG_LEVEL>  Log level [default: info]\n" ++
  "  -h, --help                   Print help\n"

partial def serve (s : Service) : IO UInt32 := do
  for _ in [0:s.settings.pollInterval] do
    IO.sleep 1000
  if s.settings.disableUpdates then serve s
  else
    let now ← systemNow
    let (_, s) := s.refresh (← Program.surroundings systemDisk s.settings now)
    serve s

end LayerAtlas

open LayerAtlas

def main (args : List String) : IO UInt32 := do
  match ← Program.run systemDisk (fun name => IO.getEnv name) (← systemNow) args with
  | .error e =>
    IO.eprintln ("Error: " ++ e.message)
    return e.exitCode.toUInt32
  | .ok .help =>
    IO.print usage
    return 0
  | .ok (.listing c) =>
    IO.println (c.toValue.print 0)
    return 0
  | .ok (.serving s) => serve s
