import ApiCatalog.Catalog
import ApiCatalog.Import.Resolve

set_option autoImplicit false

namespace ApiCatalog

structure Snapshot where
  version : Nat
  document : Document
  outcomes : List Outcome

def Snapshot.endpoints (s : Snapshot) : List Endpoint := s.document.endpoints

def Snapshot.categoryTree (s : Snapshot) : List CategoryNode := s.document.categoryTree

structure Store where
  root : PathName
  settings : Settings := {}
  current : Option Snapshot := none

structure Loading where
  result : Except (Failure DocumentError) Snapshot
  store : Store
  records : List LogRecord
  requests : List Request

namespace Store

def nextVersion (store : Store) : Nat := (store.current.map (·.version)).getD 0 + 1

-- A failure leaves the store as it is.
def load (store : Store) (disk : Disk) (externals : Externals) : Loading :=
  match resolveDocument disk externals store.settings store.root none with
  | (.error e, s) => ⟨.error e, store, s.records, s.requests⟩
  | (.ok document, s) =>
    let snapshot : Snapshot := ⟨store.nextVersion, document, s.outcomes⟩
    let installed : LogRecord :=
      ⟨.info, s!"Installed configuration v{snapshot.version} from {store.root.toText}"⟩
    ⟨.ok snapshot, { store with current := some snapshot }, s.records ++ [installed], s.requests⟩

def reload (store : Store) (disk : Disk) (externals : Externals) : Loading :=
  let loading := store.load disk externals
  match loading.result with
  | .ok _ => loading
  | .error _ =>
    let kept : LogRecord :=
      ⟨.warning, s!"Reload of {store.root.toText} failed; keeping previous configuration"⟩
    { loading with records := loading.records ++ [kept] }

end Store

end ApiCatalog
