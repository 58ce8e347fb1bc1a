import LayerAtlas.Files.Memory
import LayerAtlas.Grants
import LayerAtlas.Service

namespace LayerAtlas

structure Session where
  tree : Tree
  service : Service
  access : Access := {}
  start : Instant
  /-- Milliseconds since the start. -/
  clock : Nat := 0
  writes : Nat := 0

namespace Session

def root : String := "<root>"

def path (relative : String) : String := joinPath root relative

def inventoryPath : String := path "inventory.yaml"

def new (settings : Settings) (access : Access) (start : Instant) : Session where
  tree := Tree.empty.makeDirectory root
  service := { settings := { settings with root } }
  access
  start

def now (s : Session) : Instant :=
  (Instant.of? (s.start.seconds + s.clock / 1000) (s.clock % 1000 * 1000000)).getD s.start

def surroundings (s : Session) : Surroundings where
  products := s.tree.disk.customers root
  inventory := .file (s.tree.disk.file inventoryPath)
  now := s.now

def current (s : Session) : Generation := s.service.catalog.current

/-- The time of the change of a file: an even number if one is given, and else one of its
own. -/
def changeTime (s : Session) : Option Int → Int
  | some t => 2 * t
  | none => 2 * s.writes + 1

def write (s : Session) (path : String) (text : Option String) (modified : Option Int) :
    Session :=
  { s with
    tree := s.tree.write path { modified := s.changeTime modified, text }
    writes := s.writes + 1 }

def pass (s : Session) (milliseconds : Nat) : Session :=
  let s := { s with clock := s.clock + milliseconds }
  { s with service := s.service.pass s.surroundings milliseconds }

def patience : Nat := 60000

def await (s : Session) : Session :=
  { s with service := s.service.pass s.surroundings patience }

def tick (s : Session) : Session := { s with clock := s.clock + 1 }

def refresh (s : Session) : Except ScanError RefreshSummary × Session :=
  let (answer, service) := s.service.refresh s.surroundings
  (answer, { s with service })

def create (s : Session) (path : String) : Except CreateError Layer × Session :=
  let (answer, service) := s.service.create s.surroundings path
  (answer, { s with service })

def scan (s : Session) : Except ScanError Scan := s.service.scan s.surroundings

end Session

end LayerAtlas
