import ApiCatalog.Store

set_option autoImplicit false

namespace ApiCatalog

/-- What happens to a store and to the files that it loads from. The network may answer each load
in its own way. -/
inductive StoreEvent
  | write (path : PathName) (entry : FileEntry)
  | delete (path : PathName)
  | load (externals : Externals)
  | reload (externals : Externals)
  | current

structure StoreScene where
  disk : Disk
  store : Store

namespace StoreEvent

-- Deleting what is not there fails and changes nothing.
def diskAfter (disk : Disk) : StoreEvent → Disk
  | write path entry => disk.write path entry
  | delete path => (disk.delete path).toOption.getD disk
  | load _ | reload _ | current => disk

def loading? (scene : StoreScene) : StoreEvent → Option Loading
  | load externals => some (scene.store.load scene.disk externals)
  | reload externals => some (scene.store.reload scene.disk externals)
  | _ => none

def externals? : StoreEvent → Option Externals
  | load externals | reload externals => some externals
  | _ => none

end StoreEvent

namespace StoreScene

def step (scene : StoreScene) (event : StoreEvent) : StoreScene :=
  ⟨event.diskAfter scene.disk, (event.loading? scene).elim scene.store (·.store)⟩

def run (scene : StoreScene) (events : List StoreEvent) : StoreScene := events.foldl step scene

end StoreScene

-- The files, and what the network says, when an event loads a root that can be resolved.
def StoreEvent.success (root : PathName) (settings : Settings) (disk : Disk)
    (event : StoreEvent) : List (Disk × Externals) :=
  event.externals?.toList.filterMap fun externals =>
    if (resolveDocument disk externals settings root none).1.isOk then some (disk, externals)
    else none

-- All of these moments in a sequence of events, which does not take a store to tell.
def StoreEvent.successes (root : PathName) (settings : Settings) :
    Disk → List StoreEvent → List (Disk × Externals)
  | _, [] => []
  | disk, event :: rest =>
    event.success root settings disk ++
      successes root settings (event.diskAfter disk) rest

namespace Store

variable {store : Store} {disk : Disk} {externals : Externals}

/-- The store has what the last of some moments resolved to, and counts them all. -/
def Holds (store : Store) (moments : List (Disk × Externals)) : Prop :=
  match moments.getLast? with
  | none => store.current = none
  | some (disk, externals) => ∃ document s,
      resolveDocument disk externals store.settings store.root none = (.ok document, s) ∧
        store.current = some ⟨moments.length, document, s.outcomes⟩

theorem Holds.cases {moments : List (Disk × Externals)} (holds : store.Holds moments) :
    moments = [] ∧ store.current = none ∨
      ∃ disk externals document s, moments.getLast? = some (disk, externals) ∧
        resolveDocument disk externals store.settings store.root none = (.ok document, s) ∧
        store.current = some ⟨moments.length, document, s.outcomes⟩ := by
  unfold Holds at holds
  cases last : moments.getLast? with
  | none =>
    rw [last] at holds
    exact .inl ⟨List.getLast?_eq_none_iff.1 last, holds⟩
  | some moment =>
    rw [last] at holds
    obtain ⟨document, s, resolved, current⟩ := holds
    exact .inr ⟨_, _, document, s, rfl, resolved, current⟩

theorem Holds.nextVersion {moments : List (Disk × Externals)} (holds : store.Holds moments) :
    store.nextVersion = moments.length + 1 := by
  obtain ⟨rfl, current⟩ | ⟨_, _, _, _, -, -, current⟩ := holds.cases
  · simp [Store.nextVersion, current]
  · simp [Store.nextVersion, current]

theorem load_of_error {failure : Failure DocumentError} {s : ImportState}
    (failed : resolveDocument disk externals store.settings store.root none =
      (.error failure, s)) :
    (store.load disk externals).result = .error failure ∧
      (store.load disk externals).store = store := by
  unfold load
  rw [failed]
  exact ⟨rfl, rfl⟩

theorem load_of_ok {document : Document} {s : ImportState}
    (resolved : resolveDocument disk externals store.settings store.root none =
      (.ok document, s)) :
    (store.load disk externals).result = .ok ⟨store.nextVersion, document, s.outcomes⟩ ∧
      (store.load disk externals).store =
        { store with current := some ⟨store.nextVersion, document, s.outcomes⟩ } := by
  unfold load
  rw [resolved]
  exact ⟨rfl, rfl⟩

-- Loading again differs only in what goes to the log.
theorem reload_result :
    (store.reload disk externals).result = (store.load disk externals).result := by
  unfold reload
  dsimp only
  split <;> rfl

theorem reload_store : (store.reload disk externals).store = (store.load disk externals).store := by
  unfold reload
  dsimp only
  split <;> rfl

theorem load_holds {moments : List (Disk × Externals)} (holds : store.Holds moments) :
    (store.load disk externals).store.Holds
      (moments ++ (StoreEvent.load externals).success store.root store.settings disk) := by
  cases resolved : resolveDocument disk externals store.settings store.root none with
  | mk result s =>
    cases result with
    | error failure =>
      have fails : (StoreEvent.load externals).success store.root store.settings disk = [] := by
        simp [StoreEvent.success, StoreEvent.externals?, resolved, Except.isOk, Except.toBool]
      rwa [(load_of_error resolved).2, fails, List.append_nil]
    | ok document =>
      have succeeds : (StoreEvent.load externals).success store.root store.settings disk =
          [(disk, externals)] := by
        simp [StoreEvent.success, StoreEvent.externals?, resolved, Except.isOk, Except.toBool]
      rw [(load_of_ok resolved).2, holds.nextVersion, succeeds, Holds, List.getLast?_concat]
      exact ⟨document, s, resolved, by simp⟩

end Store

namespace StoreScene

variable {scene : StoreScene}

theorem step_settings (event : StoreEvent) :
    (scene.step event).store.root = scene.store.root ∧
      (scene.step event).store.settings = scene.store.settings := by
  have load (externals : Externals) :
      (scene.store.load scene.disk externals).store.root = scene.store.root ∧
      (scene.store.load scene.disk externals).store.settings = scene.store.settings := by
    unfold Store.load
    split <;> exact ⟨rfl, rfl⟩
  cases event with
  | load externals => exact load externals
  | reload externals =>
    simp only [step, StoreEvent.loading?, Option.elim_some, Store.reload_store]
    exact load externals
  | _ => exact ⟨rfl, rfl⟩

theorem step_holds {moments : List (Disk × Externals)} (event : StoreEvent)
    (holds : scene.store.Holds moments) :
    (scene.step event).store.Holds
      (moments ++ event.success scene.store.root scene.store.settings scene.disk) := by
  cases event with
  | load externals => exact Store.load_holds holds
  | reload externals =>
    simp only [step, StoreEvent.loading?, Option.elim_some, Store.reload_store]
    exact Store.load_holds holds
  | _ => simpa [step, StoreEvent.loading?, StoreEvent.success, StoreEvent.externals?] using holds

theorem run_settings (events : List StoreEvent) :
    (scene.run events).store.root = scene.store.root ∧
      (scene.run events).store.settings = scene.store.settings := by
  induction events generalizing scene with
  | nil => exact ⟨rfl, rfl⟩
  | cons event rest ih =>
    obtain ⟨root, settings⟩ := @ih (scene.step event)
    exact ⟨root.trans (step_settings event).1, settings.trans (step_settings event).2⟩

theorem run_holds {moments : List (Disk × Externals)} (events : List StoreEvent)
    (holds : scene.store.Holds moments) :
    (scene.run events).store.Holds (moments ++
      StoreEvent.successes scene.store.root scene.store.settings scene.disk events) := by
  induction events generalizing scene moments with
  | nil => simpa [run, StoreEvent.successes] using holds
  | cons event rest ih =>
    have later := ih (step_holds event holds)
    rw [(step_settings event).1, (step_settings event).2, List.append_assoc] at later
    exact later

end StoreScene

/-- After any events, a new store has a snapshot exactly if some load succeeded; it is that of the
last one, whatever has become of the files since, and its version counts them. A load that fails
says so and changes nothing. -/
theorem Store.run_current (root : PathName) (settings : Settings) (disk : Disk)
    (events : List StoreEvent) :
    let scene := StoreScene.run ⟨disk, { root, settings }⟩ events
    let successes := StoreEvent.successes root settings disk events
    (scene.store.current = none ↔ successes = []) ∧
    (∀ snapshot, scene.store.current = some snapshot →
      snapshot.version = successes.length ∧
      ∃ loaded externals document s, successes.getLast? = some (loaded, externals) ∧
        resolveDocument loaded externals settings root none = (.ok document, s) ∧
        snapshot.document = document ∧ snapshot.outcomes = s.outcomes ∧
        snapshot.endpoints = document.endpoints ∧
        snapshot.categoryTree = document.categoryTree) ∧
    ∀ externals, ∀ loading ∈
        [scene.store.load scene.disk externals, scene.store.reload scene.disk externals],
      match (resolveDocument scene.disk externals settings root none).1 with
      | .error failure => loading.result = .error failure ∧ loading.store = scene.store
      | .ok _ => ∃ snapshot, loading.result = .ok snapshot ∧
          loading.store = { scene.store with current := some snapshot } := by
  intro scene successes
  have holds : scene.store.Holds successes :=
    @StoreScene.run_holds ⟨disk, { root, settings }⟩ [] events rfl
  obtain ⟨sameRoot, sameSettings⟩ : scene.store.root = root ∧
      scene.store.settings = settings :=
    @StoreScene.run_settings ⟨disk, { root, settings }⟩ events
  refine ⟨?_, ?_, ?_⟩
  · obtain ⟨never, current⟩ | ⟨_, _, _, _, last, -, current⟩ := holds.cases
    · simp [never, current]
    · have ever : successes ≠ [] := fun never => by simp [never] at last
      simp [ever, current]
  · intro snapshot found
    obtain ⟨-, current⟩ | ⟨loaded, externals, document, s, last, resolved, current⟩ := holds.cases
    · simp [current] at found
    · rw [current] at found
      cases found
      rw [sameRoot, sameSettings] at resolved
      exact ⟨rfl, loaded, externals, document, s, last, resolved, rfl, rfl, rfl, rfl⟩
  · intro externals loading isLoading
    -- Loading again only logs more, so it is enough to look at loading.
    obtain ⟨result, store⟩ : loading.result = (scene.store.load scene.disk externals).result ∧
        loading.store = (scene.store.load scene.disk externals).store := by
      simp only [List.mem_cons, List.not_mem_nil, or_false] at isLoading
      rcases isLoading with rfl | rfl
      · exact ⟨rfl, rfl⟩
      · exact ⟨Store.reload_result, Store.reload_store⟩
    rw [result, store, ← sameRoot, ← sameSettings]
    cases resolved : resolveDocument scene.disk externals scene.store.settings scene.store.root
        none with
    | mk outcome s =>
      cases outcome with
      | error failure => exact Store.load_of_error resolved
      | ok document => exact ⟨_, Store.load_of_ok resolved⟩

end ApiCatalog
