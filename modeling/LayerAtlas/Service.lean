import LayerAtlas.Catalog

namespace LayerAtlas

inductive InventorySource where
  | fixed (inventory : Inventory)
  | file (state : Option FileState)

structure Surroundings where
  products : Entry
  inventory : InventorySource
  now : Instant

inductive Updates where
  | off
  /-- One at each interval; some of the present interval has passed, both in milliseconds. -/
  | every (interval passed : Nat)
  | ended
  deriving DecidableEq, Repr

structure Service where
  settings : Settings
  catalog : Catalog := {}
  cache : InventoryCache := {}
  updates : Updates := .off

inductive CreateError where
  | scan (e : ScanError)
  | notScanned
  | build (e : BuildError)
  deriving DecidableEq, Repr

namespace Service

def inventory (s : Service) : InventorySource → Except ProbeError Inventory × InventoryCache
  | .fixed inventory => (.ok inventory, s.cache)
  | .file state => s.cache.load state

def probe (s : Service) (w : Surroundings) (kind : LayerKind) (d : Definition) :
    Except ProbeError Metadata :=
  match (s.inventory w.inventory).1 with
  | .error e => .error e
  | .ok inventory => inventory.metadata s.settings.defaultProducer w.now kind d

def build (s : Service) (w : Surroundings) (source : Source) : Except BuildError Layer :=
  Layer.create s.settings (s.probe w) w.now source

/-- The service after metadata were asked for some of the sources; without a usable definition
none are. -/
def afterProbing (s : Service) (w : Surroundings) (sources : List Source) : Service :=
  if sources.any fun source => (Layer.definitionOf s.settings source).isOk then
    { s with cache := (s.inventory w.inventory).2 }
  else s

def scan (s : Service) (w : Surroundings) : Except ScanError Scan :=
  LayerAtlas.scan s.settings.root s.settings.definitionSuffix w.products

def toBuild (s : Service) (w : Surroundings) (found : Scan) : List Source :=
  found.sources.filter fun source =>
    (Outcome.reusable? s.catalog.current w.now source).isNone

def refresh (s : Service) (w : Surroundings) : Except ScanError RefreshSummary × Service :=
  let scanned := s.scan w
  let (answer, catalog) := s.catalog.refresh scanned (s.build w) w.now
  let s := match scanned with
    | .error _ => s
    | .ok found => s.afterProbing w (s.toBuild w found)
  (answer, { s with catalog })

def create (s : Service) (w : Surroundings) (path : String) :
    Except CreateError Layer × Service :=
  match s.scan w with
  | .error e => (.error (.scan e), s)
  | .ok found =>
    match found.sources.find? fun s => Path.components s.path = Path.components path with
    | none => (.error .notScanned, s)
    | some source => ((s.build w source).mapError .build, s.afterProbing w [source])

def startUpdates (s : Service) (interval : Nat) : Service :=
  if s.updates = .off then { s with updates := .every interval 0 } else s

def shutdown (s : Service) : Service := { s with updates := .ended }

def pass (s : Service) (w : Surroundings) (milliseconds : Nat) : Service :=
  match s.updates with
  | .every interval passed =>
    if interval ≤ passed + milliseconds then
      { (s.refresh w).2 with updates := .every interval 0 }
    else { s with updates := .every interval (passed + milliseconds) }
  | _ => s

end Service

end LayerAtlas
