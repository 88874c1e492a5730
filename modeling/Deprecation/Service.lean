/-
# The service

The service is the store as an operator works with it, under some settings.  When it opens, it
takes up the store that was kept last and then loads the catalogue over it, so that changes of
the catalogue take effect.  It does not keep the store by itself; whoever changes the store
persists it.
-/
import Deprecation.Catalogue.Builtin
import Deprecation.Check
import Deprecation.Ingest
import Deprecation.Settings
import Deprecation.Store.File

namespace Deprecation

/-- A store and the settings that it is used under. -/
structure Service where
  settings : Settings
  store : Store

/-- Why a service does not open. -/
inductive ServiceError where
  | catalogue (cause : CatalogueError)
  | store (cause : StoreError)
deriving DecidableEq, Repr, Inhabited

/-- What is said of a service that does not open. -/
def ServiceError.message : ServiceError → String
  | catalogue cause => "Catalog error: " ++ cause.message
  | store cause => "Store error: " ++ cause.message

/-! ## Reading settings and catalogues -/

section Disk

variable {m : Type → Type} [Monad m] [Disk m]

/-- The settings in a file.  Their paths are looked up from its directory. -/
def Settings.load (path : String) : ExceptT SettingsError m Settings := do
  let text ← ExceptT.adapt .file (Disk.readText path)
  let s ← ExceptT.mk (pure (Settings.ofToml text))
  pure { s with root := (Path.parent path).getD s.root }

/-- Writes settings to a file. -/
def Settings.save (s : Settings) (path : String) : ExceptT SettingsError m Unit := do
  let text ← ExceptT.mk (pure s.toToml)
  ExceptT.adapt .file (Disk.writeText path text)

/-- The catalogue in a file. -/
def Catalogue.load (path : String) : ExceptT CatalogueError m Catalogue := do
  let text ← ExceptT.adapt (.file path) (Disk.readText path)
  ExceptT.mk (pure (Catalogue.ofToml text))

/-- The catalogue that settings choose. -/
def Settings.catalogue (s : Settings) : ExceptT CatalogueError m Catalogue :=
  match s.cataloguePath with
  | some path => Catalogue.load (s.resolve path)
  | none => pure .builtin

namespace Service

/-! ## Opening and keeping -/

/-- The store that was kept last, or an empty one. -/
def kept (s : Settings) : ExceptT StoreError m Store := do
  let held ← ExceptT.adapt .medium (SnapshotFile.load s.storeFile)
  let (_, store) ← ExceptT.mk (pure (Store.empty.restore (.ok held)))
  pure store

/-- Opens the service. -/
def start (s : Settings) : ExceptT ServiceError m Service := do
  let catalogue ← ExceptT.adapt .catalogue s.catalogue
  let store ← ExceptT.adapt .store (kept s)
  let loaded := store.loadStatics catalogue.rules catalogue.entries
  ExceptT.adapt .store (ExceptT.mk (pure (loaded.map (⟨s, ·⟩))))

/-- Keeps the store. -/
def persist (x : Service) : ExceptT StoreError m Unit :=
  ExceptT.adapt .medium (SnapshotFile.save x.settings.storeFile x.store.persist)

end Service

end Disk

namespace Service

/-! ## Working with the store -/

/-- What becomes of the service when its store is changed. -/
def withStore {α : Type} (x : Service) (r : Except StoreError (α × Store)) :
    Except StoreError (α × Service) :=
  r.map fun (a, store) => (a, { x with store })

/-- Ingests the notes of one release. -/
def ingest (x : Service) (text version : String) (clock : Clock) :
    IngestReport × Service × Clock :=
  let (report, store, clock) := x.store.ingest x.settings.synthesizer text version clock
  (report, { x with store }, clock)

/-- Ingests all releases of a changelog. -/
def ingestDocument (x : Service) (text : String) (clock : Clock) :
    IngestReport × Service × Clock :=
  let (report, store, clock) := x.store.ingestDocument x.settings.synthesizer text clock
  (report, { x with store }, clock)

/-- Reviews a mined rule. -/
def review (x : Service) (id : String) (d : Decision) :
    Except StoreError (MinedRule × Service) :=
  x.withStore (x.store.review id d)

/-- Checks a text. -/
def check (x : Service) (text : String) : CheckResult := x.store.check text

end Service

end Deprecation
