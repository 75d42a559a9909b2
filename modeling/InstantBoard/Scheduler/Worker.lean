import InstantBoard.Lib.LastWrite
import InstantBoard.Lib.Transition
import InstantBoard.Scheduler.Jobs
import InstantBoard.Services.Source

/-!
# The worker and the source requests

The worker process schedules the active sources of a snapshot and then follows the lifecycle
notices; the API processes handle requests that publish a notice and commit their transaction after
it. A request is cut between the two (`Step.publish`, `Step.commit`, `Step.abort`), the startup at
its three steps (`Step.subscribe`, `Step.readSnapshot`, `Step.schedule`), which come in any order
but the last two: the wait for the subscription gives up after five seconds.
-/

namespace InstantBoard

open Transition

/-! ## The stored rows -/

/-- What the columns of a source guarantee: a UUID as its key and a 32-bit interval. -/
structure Source.Storable (source : Source) : Prop where
  id_ne : source.id ≠ ""
  interval_lt : ∀ i, source.refreshIntervalSeconds = some i → i < 2 ^ 31

/-- The tables as they are stored: the id of a source is its primary key. -/
structure Database where
  tables : Tables
  ids_nodup : (tables.sources.map (·.id)).Nodup
  storable : ∀ source ∈ tables.sources, source.Storable

/-- The database has the source, and it is active. -/
def Tables.active (db : Tables) (sourceId : String) : Bool :=
  (db.source? sourceId).any (·.isActive)

/-- What a transaction does to the row of one source: write it, or delete it. -/
def Tables.putSource (db : Tables) (sourceId : String) : Option Source → Tables
  | some row =>
    if (db.source? sourceId).isSome then
      { db with sources := db.sources.map fun s => if s.id = sourceId then row else s }
    else { db with sources := db.sources ++ [row] }
  | none => { db with sources := db.sources.filter (·.id ≠ sourceId) }

/-- The source a request is about. -/
def SourceService.Request.sourceId : SourceService.Request → String
  | .create _ _ id => id
  | .update sourceId _ _ => sourceId
  | .delete sourceId _ => sourceId

/-- Whether a notice has the source's job there or not; a source created inactive is left alone. -/
def LifecycleNotice.outcome : LifecycleNotice → Option Bool
  | .created source _ => if source.isActive then some true else none
  | .toggled source _ => some source.isActive
  | .deleted _ _ => some false

def LifecycleNotice.source : LifecycleNotice → Source
  | .created source _ => source
  | .toggled source _ => source
  | .deleted source _ => source

namespace Worker

/-! ## The handling of a notice -/

/-- `_load_source_payload`. -/
def loadSourcePayload (db : Tables) (sourceId : String) : Option Dict :=
  match db.source? sourceId with
  | some source =>
    if source.isActive then
      some [("id", .str source.id),
        ("tenant_id", .str source.tenantId),
        ("category_slug", .str (SourceService.slugOf db source "")),
        ("refresh_interval_seconds", (source.refreshIntervalSeconds.map Json.int).getD .null),
        ("source_type", .str source.sourceType)]
    else none
  | none => none

/-- `handle_source_status_event`; `tenantSettings` is what `_load_tenant_settings_for` answers. -/
def handleSourceStatusEvent (lib : Apscheduler) (db : Tables) (tenantSettings : String → Dict)
    (m : AsyncSchedulerManager) (eventData : Dict) : AsyncSchedulerManager :=
  let event := AsyncSchedulerManager.textField eventData "event"
  let add (source : Dict) : AsyncSchedulerManager :=
    m.addSourceJob lib source
      (some (tenantSettings (AsyncSchedulerManager.textField source "tenant_id")))
  if event = "source_enabled" ∨ event = "source_created" then
    let source := match eventData.get? "source" with
      | some (.obj source) => source
      | _ => []
    let sourceId :=
      if AsyncSchedulerManager.textField source "id" ≠ "" then
        AsyncSchedulerManager.textField source "id"
      else AsyncSchedulerManager.textField eventData "source_id"
    if sourceId = "" then m
    else if AsyncSchedulerManager.textField source "id" = "" then
      -- no embedded source: the row is read, and an inactive one is left out
      match loadSourcePayload db sourceId with
      | some source => add source
      | none => m
    else if (source.getD "is_active" (.bool true)).truthy then add source
    else m
  else if event = "source_disabled" ∨ event = "source_deleted" then
    m.removeSourceJob (AsyncSchedulerManager.textField eventData "source_id")
  else m

/-! ## The system -/

/-- A request after its publish: the row its transaction leaves (none after a deletion), the notice
it published, and whether the worker was subscribed. -/
structure Pending where
  sourceId : String
  row : Option Source
  notice : Option LifecycleNotice
  delivered : Bool

/-- The database, the requests in flight, the worker with the notices it has not handled, and its
jobs. -/
structure System where
  db : Database
  inflight : List Pending
  subscribed : Bool
  inbox : List LifecycleNotice
  snapshot : Option (List (Source × String))
  scheduled : Bool
  manager : AsyncSchedulerManager

inductive Act where
  | publish (request : SourceService.Request) (p : Pending)
  | commit (p : Pending)
  | abort (p : Pending)
  | subscribe
  | readSnapshot
  | schedule
  | handle

/-- The request as it is after its publish. -/
def Pending.ofRequest (request : SourceService.Request) (db' : Tables)
    (notice : Option LifecycleNotice) (delivered : Bool) : Pending :=
  { sourceId := request.sourceId, row := db'.source? request.sourceId, notice, delivered }

/-- The rows of the snapshot, with the slugs of their categories. -/
def activeSources (db : Tables) : List (Source × String) :=
  (db.sources.filter (·.isActive)).map fun source => (source, SourceService.slugOf db source "")

/-- One step. A created source has a new key, and a row that does not fit its columns fails at the
flush, before the publish. Redis hands a notice to the worker once and in order if the worker is
subscribed. -/
inductive Step (lib : Apscheduler) : System → Act → System → Prop where
  | publish {s request db' notice p}
    (handled : SourceService.handle s.db.tables request = .ok (db', notice))
    (fresh : ∀ data tenantId id, request = .create data tenantId id →
      s.db.tables.source? id = none)
    (flushed : ∀ row, db'.source? request.sourceId = some row → row.Storable)
    (held : p = .ofRequest request db' notice s.subscribed) :
    Step lib s (.publish request p)
      { s with
        inflight := s.inflight ++ [p]
        inbox := if s.subscribed then s.inbox ++ p.notice.toList else s.inbox }
  | commit {s before p after} {db' : Database} (held : s.inflight = before ++ p :: after)
    (written : db'.tables = s.db.tables.putSource p.sourceId p.row) :
    Step lib s (.commit p) { s with db := db', inflight := before ++ after }
  | abort {s before p after} (held : s.inflight = before ++ p :: after) :
    Step lib s (.abort p) { s with inflight := before ++ after }
  | subscribe {s} : Step lib s .subscribe { s with subscribed := true }
  | readSnapshot {s} (unread : s.snapshot = none) :
    Step lib s .readSnapshot { s with snapshot := some (activeSources s.db.tables) }
  | schedule {s sources} {tenantSettingsMap : String → Option Dict}
    (read : s.snapshot = some sources) (unscheduled : s.scheduled = false) :
    Step lib s .schedule
      { s with
        scheduled := true
        manager := s.manager.scheduleAllActiveSources lib tenantSettingsMap sources }
  | handle {s notice rest} {tenantSettings : String → Dict} (waiting : s.inbox = notice :: rest) :
    Step lib s .handle
      { s with
        inbox := rest
        manager := handleSourceStatusEvent lib s.db.tables tenantSettings s.manager
          notice.payload }

/-- The worker is about to start, over any database. -/
def start (db : Database) : System :=
  { db, inflight := [], subscribed := false, inbox := [], snapshot := none, scheduled := false,
    manager := { AsyncSchedulerManager.init with running := true, adaptivePauseEnabled := false } }

/-- Startup and requests are over and every notice has been handled. -/
structure Quiescent (s : System) : Prop where
  scheduled : s.scheduled = true
  inflight : s.inflight = []
  inbox : s.inbox = []

/-- The scheduled jobs are those of the active sources in the database. -/
def Converged (s : System) : Prop :=
  ∀ jobId, (s.manager.jobs jobId).isSome = true ↔
    ∃ source ∈ s.db.tables.sources, source.isActive = true ∧
      jobId = AsyncSchedulerManager.collectJobId source.id

end Worker

/-! ## The rows of a source -/

/-- A source that is found is in the table. -/
lemma Tables.source?_eq_some {db : Tables} {sourceId : String} {source : Source}
    (h : db.source? sourceId = some source) : source ∈ db.sources ∧ source.id = sourceId := by
  unfold Tables.source? at h
  exact ⟨List.mem_of_find?_eq_some h, by simpa using List.find?_some h⟩

/-- By its key a source of the database is found. -/
lemma Database.source?_of_mem (db : Database) {source : Source} (h : source ∈ db.tables.sources) :
    db.tables.source? source.id = some source := by
  have nodup := db.ids_nodup
  unfold Tables.source?
  generalize db.tables.sources = sources at h nodup
  induction sources with
  | nil => cases h
  | cons s sources ih =>
    rw [List.map_cons, List.nodup_cons] at nodup
    rcases List.mem_cons.1 h with rfl | h
    · simp
    · have hne : s.id ≠ source.id := by
        intro heq
        exact nodup.1 (heq ▸ List.mem_map_of_mem h)
      simp [hne, ih h nodup.2]

/-- A source is active if there is an active row of it. -/
lemma Database.active_iff (db : Database) (sourceId : String) :
    db.tables.active sourceId = true ↔
      ∃ source ∈ db.tables.sources, source.isActive = true ∧ source.id = sourceId := by
  unfold Tables.active
  rw [Option.any_eq_true]
  constructor
  · rintro ⟨source, hsource, hactive⟩
    obtain ⟨hmem, hid⟩ := Tables.source?_eq_some hsource
    exact ⟨source, hmem, hactive, hid⟩
  · rintro ⟨source, hmem, hactive, rfl⟩
    exact ⟨source, db.source?_of_mem hmem, hactive⟩

/-- The other sources are found after a deletion. -/
lemma Tables.source?_removed (db : Tables) (sourceId other : String) :
    Tables.source? { db with sources := db.sources.filter (·.id ≠ sourceId) } other =
      if other = sourceId then none else db.source? other := by
  simp only [source?, List.find?_filter]
  split
  next h =>
    subst h
    rw [List.find?_eq_none]
    simp
  next h =>
    congr 1
    funext s
    by_cases hs : s.id = other
    · simp [hs, h]
    · simp [hs]

/-- An update puts the new row in the place of the old one. -/
lemma Tables.source?_replaced (db : Tables) {sourceId : String} {row : Source}
    (hid : row.id = sourceId) (hsome : (db.source? sourceId).isSome = true) (other : String) :
    Tables.source? { db with sources := db.sources.map fun s => if s.id = sourceId then row else s }
      other = if other = sourceId then some row else db.source? other := by
  simp only [source?, List.find?_map]
  -- the rows keep their keys
  have hkeys : ((fun s : Source => s.id == other) ∘
      fun s => if s.id = sourceId then row else s) = fun s => s.id == other := by
    funext s
    by_cases hs : s.id = sourceId <;> simp [hs, hid]
  rw [hkeys]
  cases hs : db.source? other with
  | none =>
    rw [if_neg (by rintro rfl; simp [hs] at hsome)]
    unfold source? at hs
    rw [hs]
    rfl
  | some s =>
    have hsid := (source?_eq_some hs).2
    unfold source? at hs
    rw [hs, Option.map_some, hsid]
    split <;> rfl

/-- A creation puts the row behind the others. -/
lemma Tables.source?_added (db : Tables) {sourceId : String} {row : Source}
    (hid : row.id = sourceId) (hnone : db.source? sourceId = none) (other : String) :
    Tables.source? { db with sources := db.sources ++ [row] } other =
      if other = sourceId then some row else db.source? other := by
  simp only [source?] at hnone ⊢
  rw [List.find?_append]
  split
  next h =>
    subst h
    simp [hnone, hid]
  next h =>
    have hne : row.id ≠ other := by
      rw [hid]
      exact Ne.symm h
    simp [hne]

/-- A transaction changes its own source only. -/
lemma Tables.source?_putSource (db : Tables) {sourceId : String} {row : Option Source}
    (hrow : ∀ source, row = some source → source.id = sourceId) (other : String) :
    (db.putSource sourceId row).source? other =
      if other = sourceId then row else db.source? other := by
  cases row with
  | none => exact db.source?_removed sourceId other
  | some row =>
    have hid := hrow row rfl
    simp only [putSource]
    split
    next hsome => exact db.source?_replaced hid hsome other
    next hnone => exact db.source?_added hid (Option.not_isSome_iff_eq_none.1 hnone) other

namespace SourceService

/-- A handled request and its notice: the notice is about a row of the request's source, and it
tells whether the source is active then; where it tells nothing, that has not changed. -/
structure Announced (db db' : Tables) (sourceId : String) (notice : Option LifecycleNotice) :
    Prop where
  about : ∀ n, notice = some n →
    db'.source? sourceId = some n.source ∨ db.source? sourceId = some n.source
  outcome : (notice.bind LifecycleNotice.outcome).getD (db.active sourceId) = db'.active sourceId

end SourceService

namespace AsyncSchedulerManager

/-- The snapshot's active sources get their jobs. -/
lemma isSome_scheduleAllActiveSources {lib : Apscheduler} {tenantSettingsMap : String → Option Dict}
    {sources : List (Source × String)} (h : ∀ row ∈ sources, row.1.Storable)
    (m : AsyncSchedulerManager) (jobId : String) :
    ((m.scheduleAllActiveSources lib tenantSettingsMap sources).jobs jobId).isSome = true ↔
      (∃ row ∈ sources, row.1.isActive = true ∧ jobId = collectJobId row.1.id) ∨
        (m.jobs jobId).isSome = true := by
  induction sources generalizing m with
  | nil => simp [scheduleAllActiveSources]
  | cons row sources ih =>
    obtain ⟨source, categorySlug⟩ := row
    have ih := ih (fun row hrow => h row (List.mem_cons_of_mem _ hrow))
    obtain ⟨hle, hlt⟩ := resolveEffectiveInterval_bounds
      (h (source, categorySlug) List.mem_cons_self).interval_lt source.sourceType categorySlug
      (tenantSettingsMap source.tenantId)
    have htrigger := lib.intervalTrigger_isSome (by omega) hlt
    unfold scheduleAllActiveSources
    by_cases hactive : source.isActive = true
    · simp only [hactive, if_true, htrigger]
      rw [ih, isSome_addJob htrigger]
      simp [hactive, or_assoc, or_left_comm]
    · rw [if_neg hactive, ih]
      simp [hactive]

end AsyncSchedulerManager

/-! ## What requests announce and the worker makes of it -/

namespace SourceService

/-- Creating a source announces what was written. -/
lemma createSource_announced {db db' : Tables} {data : SourceCreate} {tenantId id : String}
    {notice : Option LifecycleNotice} (h : createSource db data tenantId id = .ok (db', notice))
    (fresh : db.source? id = none) : Announced db db' id notice := by
  obtain ⟨source, categorySlug, rfl, hactive, rfl, rfl⟩ := createSource_eq_ok h
  have hrow : Tables.source? { db with sources := db.sources ++ [source] } source.id =
      some source := by
    unfold Tables.source? at fresh ⊢
    rw [List.find?_append, fresh]
    simp
  constructor
  · intro n hn
    cases hn
    exact .inl hrow
  · unfold Tables.active
    rw [hrow, fresh]
    cases h : source.isActive <;> simp [LifecycleNotice.outcome, h]

/-- Updating a source announces what was written. -/
lemma updateSource_announced {db db' : Tables} {sourceId : String} {data : SourceUpdate}
    {tenantId : String} {notice : Option LifecycleNotice}
    (h : updateSource db sourceId data tenantId = .ok (db', notice)) :
    Announced db db' sourceId notice := by
  obtain ⟨source, hsource, rfl, rfl⟩ := updateSource_eq_ok h
  have hid : (applyUpdate source data).id = sourceId := (Tables.source?_eq_some hsource).2
  have hrow : Tables.source? { db with sources := db.sources.map fun s =>
      if s.id = sourceId then applyUpdate source data else s } sourceId =
        some (applyUpdate source data) := by
    rw [Tables.source?_replaced db hid (by rw [hsource]; rfl), if_pos rfl]
  constructor
  · intro n hn
    split at hn
    · cases hn
      exact .inl hrow
    · cases hn
  · unfold Tables.active
    rw [hrow, hsource]
    split
    next => rfl
    next hsame => simpa using (not_not.1 hsame).symm

/-- Deleting a source announces what was written. -/
lemma deleteSource_announced {db db' : Tables} {sourceId tenantId : String}
    {notice : Option LifecycleNotice} (h : deleteSource db sourceId tenantId = .ok (db', notice)) :
    Announced db db' sourceId notice := by
  obtain ⟨source, hsource, rfl, rfl⟩ := deleteSource_eq_ok h
  have hrow : Tables.source? { db with sources := db.sources.filter (·.id ≠ sourceId) } sourceId =
      none := by
    rw [Tables.source?_removed, if_pos rfl]
  constructor
  · intro n hn
    cases hn
    exact .inr hsource
  · unfold Tables.active
    rw [hrow]
    rfl

/-- Every request keeps to this, a creation if its key is new. -/
lemma handle_announced {db db' : Tables} {request : Request} {notice : Option LifecycleNotice}
    (h : handle db request = .ok (db', notice))
    (fresh : ∀ data tenantId id, request = .create data tenantId id → db.source? id = none) :
    Announced db db' request.sourceId notice := by
  cases request with
  | create data tenantId id => exact createSource_announced h (fresh data tenantId id rfl)
  | update sourceId data tenantId => exact updateSource_announced h
  | delete sourceId tenantId => exact deleteSource_announced h

end SourceService

namespace Worker

open AsyncSchedulerManager

section

variable {lib : Apscheduler} {db : Tables} {tenantSettings : String → Dict}
  {m : AsyncSchedulerManager} {source : Source} {categorySlug : String}

/-- The interval in a payload is the source's. -/
lemma intervalField_sourcePayload (source : Source) (categorySlug : String) :
    intervalField (sourcePayload source categorySlug) = source.refreshIntervalSeconds := by
  have hget : Dict.get? (sourcePayload source categorySlug) "refresh_interval_seconds" =
      some ((source.refreshIntervalSeconds.map Json.int).getD .null) := rfl
  unfold intervalField
  rw [hget]
  cases source.refreshIntervalSeconds <;> rfl

/-- The payload of a stored row makes its job. -/
lemma isSome_addSourceJob_sourcePayload (storable : source.Storable)
    (settings : Option Dict) (jobId : String) :
    ((m.addSourceJob lib (sourcePayload source categorySlug) settings).jobs jobId).isSome = true ↔
      jobId = collectJobId source.id ∨ (m.jobs jobId).isSome = true := by
  apply isSome_addSourceJob
  · exact storable.id_ne
  · rw [intervalField_sourcePayload]
    exact storable.interval_lt

/-- The two notices that carry a source have an active one scheduled. -/
lemma handleSourceStatusEvent_of_source {eventData : Dict}
    (hevent : textField eventData "event" = "source_enabled" ∨
      textField eventData "event" = "source_created")
    (hsource : eventData.get? "source" = some (.obj (sourcePayload source categorySlug)))
    (hid : source.id ≠ "") :
    handleSourceStatusEvent lib db tenantSettings m eventData =
      if source.isActive then
        m.addSourceJob lib (sourcePayload source categorySlug)
          (some (tenantSettings source.tenantId))
      else m := by
  have hidField : textField (sourcePayload source categorySlug) "id" = source.id := rfl
  have htenant : textField (sourcePayload source categorySlug) "tenant_id" = source.tenantId := rfl
  have hactive : (Dict.getD (sourcePayload source categorySlug) "is_active" (.bool true)).truthy =
      source.isActive := rfl
  unfold handleSourceStatusEvent
  simp only [if_pos hevent, hsource, hidField, htenant, hactive, ne_eq, hid, not_false_eq_true,
    if_true, if_false]

/-- On a removal the source's job goes. -/
lemma handleSourceStatusEvent_of_removal {eventData : Dict}
    (hevent : textField eventData "event" = "source_disabled" ∨
      textField eventData "event" = "source_deleted") :
    handleSourceStatusEvent lib db tenantSettings m eventData =
      m.removeSourceJob (textField eventData "source_id") := by
  have hadds : ¬ (textField eventData "event" = "source_enabled" ∨
      textField eventData "event" = "source_created") := by
    rcases hevent with h | h <;> rw [h] <;> decide
  unfold handleSourceStatusEvent
  simp only [if_neg hadds, if_pos hevent]

end

/-- A handled notice settles the job of its source and leaves the others alone. -/
lemma isSome_handleSourceStatusEvent {lib : Apscheduler} {db : Tables}
    {tenantSettings : String → Dict} {m : AsyncSchedulerManager} {n : LifecycleNotice}
    (storable : n.source.Storable) (jobId : String) :
    ((handleSourceStatusEvent lib db tenantSettings m n.payload).jobs jobId).isSome =
      if jobId = collectJobId n.source.id then n.outcome.getD (m.jobs jobId).isSome
      else (m.jobs jobId).isSome := by
  have added : ∀ source categorySlug settings, Source.Storable source →
      ((m.addSourceJob lib (sourcePayload source categorySlug) settings).jobs jobId).isSome =
        if jobId = collectJobId source.id then true else (m.jobs jobId).isSome := by
    intro source categorySlug settings storable
    rw [Bool.eq_iff_iff, isSome_addSourceJob_sourcePayload storable]
    split <;> simp [*]
  have removed : ∀ sourceId, sourceId ≠ "" →
      ((m.removeSourceJob sourceId).jobs jobId).isSome =
        if jobId = collectJobId sourceId then false else (m.jobs jobId).isSome := by
    intro sourceId hid
    rw [Bool.eq_iff_iff, isSome_removeSourceJob hid]
    split <;> simp [*]
  cases n with
  | created source categorySlug =>
    have storable : source.Storable := storable
    rw [handleSourceStatusEvent_of_source (.inr rfl) rfl storable.id_ne]
    cases hactive : source.isActive with
    | true =>
      simpa [LifecycleNotice.outcome, LifecycleNotice.source, hactive] using
        added source categorySlug (some (tenantSettings source.tenantId)) storable
    | false => simp [LifecycleNotice.outcome, hactive]
  | toggled source categorySlug =>
    have storable : source.Storable := storable
    cases hactive : source.isActive with
    | true =>
      rw [handleSourceStatusEvent_of_source (.inl (by rw [LifecycleNotice.payload, hactive]; rfl))
        rfl storable.id_ne]
      simpa [LifecycleNotice.outcome, LifecycleNotice.source, hactive] using
        added source categorySlug (some (tenantSettings source.tenantId)) storable
    | false =>
      have hid : textField (LifecycleNotice.toggled source categorySlug).payload "source_id" =
          source.id := rfl
      rw [handleSourceStatusEvent_of_removal (.inl (by rw [LifecycleNotice.payload, hactive]; rfl)),
        hid]
      simpa [LifecycleNotice.outcome, LifecycleNotice.source, hactive] using
        removed source.id storable.id_ne
  | deleted source categorySlug =>
    rw [handleSourceStatusEvent_of_removal (.inr rfl)]
    exact removed source.id storable.id_ne

end Worker

end InstantBoard
