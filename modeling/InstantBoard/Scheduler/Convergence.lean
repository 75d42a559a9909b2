import InstantBoard.Scheduler.Worker

/-!
# The worker's jobs and the active sources

Once startup, requests and notices have come to an end, the worker should have a job for each active
source and no other. Two things go wrong: a snapshot is scheduled as it was read, also where a
source was disabled or deleted in between and the notice of it has been handled already; and a
notice is published before the commit, so that one is announced that is never committed. In a run
whose steps all meet `Safe` the jobs converge (`converged_of_safe`).

The proof compares, for each source, what will be there once the waiting notices are handled
(`System.settled`) with what should be there once the requests in flight have committed
(`System.target`). After the scheduling the two are the same; before it, `Early` says how they can
differ.
-/

namespace InstantBoard

open Transition

namespace Worker

open AsyncSchedulerManager

/-! ## Where the system is heading -/

/-- Whether the source is active once its request in flight has committed. -/
def Pending.active (p : Pending) : Bool :=
  p.row.any (·.isActive)

/-- What its notice makes of the source's job. -/
def Pending.outcome (p : Pending) : Option Bool :=
  p.notice.bind LifecycleNotice.outcome

/-- What a notice makes of the job of that source. -/
def outcomeFor (sourceId : String) (n : LifecycleNotice) : Option Bool :=
  if n.source.id = sourceId then n.outcome else none

/-- Whether a source is active once the requests in flight have committed. -/
def targetOf (inflight : List Pending) (db : Tables) (sourceId : String) : Bool :=
  match inflight.find? (·.sourceId == sourceId) with
  | some p => p.active
  | none => db.active sourceId

def System.target (s : System) (sourceId : String) : Bool :=
  targetOf s.inflight s.db.tables sourceId

/-- Whether the source's job is there once the waiting notices have been handled. -/
def System.settled (s : System) (sourceId : String) : Bool :=
  LastWrite.apply (s.inbox.map (outcomeFor sourceId))
    (s.manager.jobs (collectJobId sourceId)).isSome

/-- A waiting notice settles the source's job. -/
def System.Waiting (s : System) (sourceId : String) : Prop :=
  ∃ b, some b ∈ s.inbox.map (outcomeFor sourceId)

/-- The condition on a step. A request publishes while no other one about its source is in flight,
and, once the snapshot is read, a notice that concerns a job finds the worker subscribed; a request
fails to commit only if its notice tells what the database holds anyway; the snapshot is read when
every enabling in flight has reached the worker; and it is scheduled while each of its sources is
still active or has a notice waiting. -/
def Safe (s : System) : Act → Prop
  | .publish _ p => (∀ q ∈ s.inflight, q.sourceId ≠ p.sourceId) ∧
    (p.outcome.isSome = true → s.snapshot.isSome = true → s.subscribed = true)
  | .abort p => ∀ b, p.outcome = some b → s.db.tables.active p.sourceId = b
  | .readSnapshot => ∀ p ∈ s.inflight, p.outcome = some true → p.delivered = true
  | .schedule => ∀ sources, s.snapshot = some sources → ∀ row ∈ sources,
    s.target row.1.id = true ∨ s.Waiting row.1.id
  | .commit _ | .subscribe | .handle => True

/-- A source with a request on its way has the request's target. -/
lemma targetOf_of_mem {inflight : List Pending} (db : Tables)
    (distinct : (inflight.map (·.sourceId)).Nodup) {p : Pending} (h : p ∈ inflight) :
    targetOf inflight db p.sourceId = p.active := by
  unfold targetOf
  have hfind : inflight.find? (·.sourceId == p.sourceId) = some p := by
    induction inflight with
    | nil => cases h
    | cons q inflight ih =>
      rw [List.map_cons, List.nodup_cons] at distinct
      rcases List.mem_cons.1 h with rfl | h
      · simp
      · have hne : q.sourceId ≠ p.sourceId := by
          intro heq
          exact distinct.1 (heq ▸ List.mem_map_of_mem h)
        simp [hne, ih distinct.2 h]
  rw [hfind]

/-- Any other source has that of its row. -/
lemma targetOf_of_ne {inflight : List Pending} (db : Tables) {sourceId : String}
    (h : ∀ p ∈ inflight, p.sourceId ≠ sourceId) :
    targetOf inflight db sourceId = db.active sourceId := by
  unfold targetOf
  have hfind : inflight.find? (·.sourceId == sourceId) = none := by
    simpa [List.find?_eq_none] using h
  rw [hfind]

/-- A request that ends with what it is heading for leaves the targets as they are. -/
lemma targetOf_remove {before after : List Pending} {p : Pending} {db db' : Tables}
    (distinct : ((before ++ p :: after).map (·.sourceId)).Nodup)
    (hself : db'.active p.sourceId = p.active)
    (hothers : ∀ sourceId, sourceId ≠ p.sourceId → db'.active sourceId = db.active sourceId)
    (sourceId : String) :
    targetOf (before ++ after) db' sourceId = targetOf (before ++ p :: after) db sourceId := by
  have hperm : ((p :: (before ++ after)).map (·.sourceId)).Nodup :=
    (List.perm_middle.map _).nodup_iff.1 distinct
  rw [List.map_cons, List.nodup_cons] at hperm
  -- its own source, another one in flight, or one at rest
  by_cases hp : sourceId = p.sourceId
  · subst hp
    rw [targetOf_of_mem db distinct (by simp), targetOf_of_ne db', hself]
    intro q hq heq
    exact hperm.1 (heq ▸ List.mem_map_of_mem hq)
  · by_cases hq : ∃ q ∈ before ++ after, q.sourceId = sourceId
    · obtain ⟨q, hq, rfl⟩ := hq
      rw [targetOf_of_mem db' hperm.2 hq, targetOf_of_mem db distinct]
      simp only [List.mem_append, List.mem_cons] at hq ⊢
      tauto
    · have hnone : ∀ q ∈ before ++ after, q.sourceId ≠ sourceId := fun q hmem heq => hq ⟨q, hmem, heq⟩
      rw [targetOf_of_ne db' hnone, targetOf_of_ne db, hothers sourceId hp]
      intro q hmem
      rcases List.mem_cons.1 (List.perm_middle.mem_iff.1 hmem) with rfl | hmem
      · exact Ne.symm hp
      · exact hnone q hmem

/-- A new request heads its source for what its notice tells. -/
lemma targetOf_concat {inflight : List Pending} {db : Tables} {p : Pending}
    (alone : ∀ q ∈ inflight, q.sourceId ≠ p.sourceId)
    (houtcome : p.outcome.getD (db.active p.sourceId) = p.active) (sourceId : String) :
    targetOf (inflight ++ [p]) db sourceId =
      if sourceId = p.sourceId then p.outcome.getD (targetOf inflight db sourceId)
      else targetOf inflight db sourceId := by
  by_cases h : sourceId = p.sourceId
  · subst h
    rw [if_pos rfl, targetOf_of_ne db alone, houtcome]
    have hnone : inflight.find? (·.sourceId == p.sourceId) = none := by
      simpa [List.find?_eq_none] using alone
    unfold targetOf
    rw [List.find?_append, hnone]
    simp
  · have hne : p.sourceId ≠ sourceId := Ne.symm h
    rw [if_neg h]
    unfold targetOf
    rw [List.find?_append]
    simp [hne]

/-! ## The invariant -/

/-- Until the snapshot is scheduled: a job that will be there belongs to a source that will be
active, the notices and the delivered requests agree with the targets, and what they do not know of
is in the snapshot. -/
structure Early (s : System) : Prop where
  settled_target : ∀ sourceId, s.settled sourceId = true → s.target sourceId = true
  waiting : ∀ sourceId, s.Waiting sourceId → s.settled sourceId = s.target sourceId
  delivered : ∀ p ∈ s.inflight, p.delivered = true → p.outcome.isSome = true →
    s.settled p.sourceId = s.target p.sourceId
  snapshot : ∀ sources, s.snapshot = some sources → ∀ sourceId, s.target sourceId = true →
    s.settled sourceId = true ∨ ∃ row ∈ sources, row.1.id = sourceId

/-- The invariant of a run. -/
structure Sound (s : System) : Prop where
  distinct : (s.inflight.map (·.sourceId)).Nodup
  row_id : ∀ p ∈ s.inflight, ∀ row, p.row = some row → row.id = p.sourceId
  outcome : ∀ p ∈ s.inflight, p.outcome.getD (s.db.tables.active p.sourceId) = p.active
  inbox : ∀ n ∈ s.inbox, n.source.Storable
  sources : ∀ sources, s.snapshot = some sources →
    ∀ row ∈ sources, row.1.Storable ∧ row.1.isActive = true
  collections : ∀ jobId, (s.manager.jobs jobId).isSome = true →
    ∃ sourceId, jobId = collectJobId sourceId
  unsubscribed : s.subscribed = false → s.inbox = []
  unscheduled : s.subscribed = false → s.scheduled = false → ∀ jobId, s.manager.jobs jobId = none
  read : s.scheduled = true → s.snapshot.isSome = true
  early : s.scheduled = false → Early s
  late : s.scheduled = true → ∀ sourceId, s.settled sourceId = s.target sourceId

/-- The system starts sound. -/
lemma Sound.start (db : Database) : Sound (start db) where
  distinct := List.nodup_nil
  row_id := by simp [Worker.start]
  outcome := by simp [Worker.start]
  inbox := by simp [Worker.start]
  sources := by simp [Worker.start]
  collections := by simp [Worker.start, AsyncSchedulerManager.init]
  unsubscribed := fun _ => rfl
  unscheduled := fun _ _ _ => rfl
  read := by simp [Worker.start]
  early := fun _ => {
    settled_target := by simp [System.settled, Worker.start, AsyncSchedulerManager.init]
    waiting := by simp [System.Waiting, Worker.start]
    delivered := by simp [Worker.start]
    snapshot := by simp [Worker.start] }
  late := by simp [Worker.start]

/-- The invariant before the snapshot is scheduled, for a step that changes neither what will be
there nor what should be. -/
lemma Early.congr {s s' : System} (h : Early s)
    (hsettled : ∀ sourceId, s'.settled sourceId = s.settled sourceId)
    (htarget : ∀ sourceId, s'.target sourceId = s.target sourceId)
    (hwaiting : ∀ sourceId, s'.Waiting sourceId → s.Waiting sourceId)
    (hinflight : ∀ p ∈ s'.inflight, p ∈ s.inflight) (hsnapshot : s'.snapshot = s.snapshot) :
    Early s' := by
  constructor
  · intro sourceId
    rw [hsettled, htarget]
    exact h.settled_target sourceId
  · intro sourceId hw
    rw [hsettled, htarget]
    exact h.waiting sourceId (hwaiting sourceId hw)
  · intro p hp hdelivered houtcome
    rw [hsettled, htarget]
    exact h.delivered p (hinflight p hp) hdelivered houtcome
  · intro sources hsources sourceId ht
    rw [hsettled]
    rw [htarget] at ht
    rw [hsnapshot] at hsources
    exact h.snapshot sources hsources sourceId ht

/-! ## Requests -/

/-- Writing a row changes what is active of its source alone. -/
lemma active_putSource (db : Tables) {sourceId : String} {row : Option Source}
    (hrow : ∀ source, row = some source → source.id = sourceId) (other : String) :
    (db.putSource sourceId row).active other =
      if other = sourceId then row.any (·.isActive) else db.active other := by
  unfold Tables.active
  rw [Tables.source?_putSource db hrow]
  split <;> rfl

/-- A request in flight ends: its source's row is as the request was heading for, and the others
are as before. -/
lemma Sound.remove {s : System} {db' : Database} {before after : List Pending} {p : Pending}
    (h : Sound s) (held : s.inflight = before ++ p :: after)
    (hself : db'.tables.active p.sourceId = p.active)
    (hothers : ∀ sourceId, sourceId ≠ p.sourceId →
      db'.tables.active sourceId = s.db.tables.active sourceId) :
    Sound { s with db := db', inflight := before ++ after } := by
  have distinct := h.distinct
  rw [held] at distinct
  have hsub : ∀ q ∈ before ++ after, q ∈ s.inflight := by
    intro q hq
    rw [held]
    simp only [List.mem_append, List.mem_cons] at hq ⊢
    tauto
  have hperm : ((p :: (before ++ after)).map (·.sourceId)).Nodup :=
    (List.perm_middle.map _).nodup_iff.1 distinct
  rw [List.map_cons, List.nodup_cons] at hperm
  have htarget : ∀ sourceId,
      targetOf (before ++ after) db'.tables sourceId = s.target sourceId := by
    intro sourceId
    unfold System.target
    rw [held]
    exact targetOf_remove distinct hself hothers sourceId
  exact {
    distinct := hperm.2
    row_id := fun q hq => h.row_id q (hsub q hq)
    outcome := by
      intro q hq
      have hne : q.sourceId ≠ p.sourceId := fun heq => hperm.1 (heq ▸ List.mem_map_of_mem hq)
      show q.outcome.getD (db'.tables.active q.sourceId) = q.active
      rw [hothers q.sourceId hne]
      exact h.outcome q (hsub q hq)
    inbox := h.inbox
    sources := h.sources
    collections := h.collections
    unsubscribed := h.unsubscribed
    unscheduled := h.unscheduled
    read := h.read
    early := fun hnot => (h.early hnot).congr (fun _ => rfl) htarget (fun _ hw => hw) hsub rfl
    late := fun hscheduled sourceId => (h.late hscheduled sourceId).trans (htarget sourceId).symm }

/-- A commit keeps the system sound. -/
lemma Sound.commit {s : System} {db' : Database} {before after : List Pending} {p : Pending}
    (h : Sound s) (held : s.inflight = before ++ p :: after)
    (written : db'.tables = s.db.tables.putSource p.sourceId p.row) :
    Sound { s with db := db', inflight := before ++ after } := by
  have hrow := h.row_id p (by rw [held]; simp)
  apply h.remove held
  · rw [written, active_putSource _ hrow, if_pos rfl]
    rfl
  · intro sourceId hne
    rw [written, active_putSource _ hrow, if_neg hne]

/-- A failed request whose notice tells what the database holds. -/
lemma Sound.abort {s : System} {before after : List Pending} {p : Pending}
    (h : Sound s) (held : s.inflight = before ++ p :: after) (safe : Safe s (.abort p)) :
    Sound { s with inflight := before ++ after } := by
  have hself : s.db.tables.active p.sourceId = p.active := by
    rw [← h.outcome p (by rw [held]; simp)]
    cases houtcome : p.outcome with
    | none => rfl
    | some b => exact safe b houtcome
  exact @Sound.remove s s.db before after p h held hself (fun _ _ => rfl)

/-- What a published request is about. -/
structure Published (s : System) (p : Pending) : Prop where
  row_id : ∀ row, p.row = some row → row.id = p.sourceId
  outcome : p.outcome.getD (s.db.tables.active p.sourceId) = p.active
  source : ∀ n, p.notice = some n → n.source.id = p.sourceId ∧ n.source.Storable

/-- What is published tells what was written. -/
lemma published_of_handle {s : System} {request : SourceService.Request} {db' : Tables}
    {notice : Option LifecycleNotice}
    (handled : SourceService.handle s.db.tables request = .ok (db', notice))
    (fresh : ∀ data tenantId id, request = .create data tenantId id →
      s.db.tables.source? id = none)
    (flushed : ∀ row, db'.source? request.sourceId = some row → row.Storable) :
    Published s (.ofRequest request db' notice s.subscribed) := by
  have announced := SourceService.handle_announced handled fresh
  refine ⟨fun row hrow => (Tables.source?_eq_some hrow).2, announced.outcome, ?_⟩
  intro n hn
  obtain hrow | hrow := announced.about n hn
  · exact ⟨(Tables.source?_eq_some hrow).2, flushed _ hrow⟩
  · obtain ⟨hmem, hid⟩ := Tables.source?_eq_some hrow
    exact ⟨hid, s.db.storable _ hmem⟩

/-- The system after the publish. -/
def System.publish (s : System) (p : Pending) : System :=
  { s with
    inflight := s.inflight ++ [p]
    inbox := if s.subscribed then s.inbox ++ p.notice.toList else s.inbox }

section

variable {s : System} {p : Pending}

/-- A publication changes its source's target alone. -/
lemma target_publish (published : Published s p) (alone : ∀ q ∈ s.inflight, q.sourceId ≠ p.sourceId)
    (sourceId : String) :
    (s.publish p).target sourceId =
      if sourceId = p.sourceId then p.outcome.getD (s.target sourceId) else s.target sourceId :=
  targetOf_concat alone published.outcome sourceId

/-- What the notice of a request makes of a job. -/
lemma outcomeFor_notice (published : Published s p) (sourceId : String) :
    p.notice.bind (outcomeFor sourceId) = if sourceId = p.sourceId then p.outcome else none := by
  unfold Pending.outcome
  cases hn : p.notice with
  | none => simp
  | some n =>
    have hid := (published.source n hn).1
    by_cases h : sourceId = p.sourceId
    · simp [outcomeFor, hid, h]
    · simp [outcomeFor, hid, h, Ne.symm h]

/-- To a subscriber a publication settles its source. -/
lemma settled_publish_of_subscribed (published : Published s p) (hsub : s.subscribed = true)
    (sourceId : String) :
    (s.publish p).settled sourceId =
      if sourceId = p.sourceId then p.outcome.getD (s.settled sourceId)
      else s.settled sourceId := by
  have hfor := outcomeFor_notice published sourceId
  unfold System.settled System.publish
  simp only [hsub, if_true]
  cases hn : p.notice with
  | none =>
    rw [hn] at hfor
    simp only [Option.bind_none] at hfor
    split
    next h =>
      rw [if_pos h] at hfor
      simp [← hfor]
    next => simp
  | some n =>
    rw [hn] at hfor
    simp only [Option.bind_some] at hfor
    simp only [Option.toList_some, List.map_append, List.map_cons, List.map_nil,
      LastWrite.apply_concat, hfor]
    split <;> rfl

/-- Without a subscriber a publication settles nothing. -/
lemma settled_publish_of_not_subscribed (hsub : s.subscribed = false) (sourceId : String) :
    (s.publish p).settled sourceId = s.settled sourceId := by
  unfold System.settled System.publish
  simp [hsub]

/-- A publication makes its source alone wait. -/
lemma waiting_publish (published : Published s p) {sourceId : String}
    (hw : (s.publish p).Waiting sourceId) :
    s.Waiting sourceId ∨ (s.subscribed = true ∧ sourceId = p.sourceId ∧ p.outcome.isSome = true) := by
  obtain ⟨b, hb⟩ := hw
  have hfor := outcomeFor_notice published sourceId
  unfold System.publish at hb
  cases hsub : s.subscribed with
  | false => exact .inl ⟨b, by simpa [hsub] using hb⟩
  | true =>
    simp only [hsub, if_true, List.map_append, List.mem_append] at hb
    obtain hb | hb := hb
    · exact .inl ⟨b, hb⟩
    · right
      cases hn : p.notice with
      | none => simp [hn] at hb
      | some n =>
        simp only [hn, Option.toList_some, List.map_cons, List.map_nil, List.mem_singleton] at hb
        rw [hn, Option.bind_some, ← hb] at hfor
        split at hfor
        next h => exact ⟨rfl, h, by rw [← hfor]; rfl⟩
        next => cases hfor

/-- A publish that reaches the worker: the notice overrides what will be there as it overrides what
should be. -/
lemma Early.publish_heard (h : Early s) (published : Published s p)
    (alone : ∀ q ∈ s.inflight, q.sourceId ≠ p.sourceId) (hsub : s.subscribed = true) :
    Early (s.publish p) := by
  have htarget := target_publish published alone
  have hsettled := settled_publish_of_subscribed published hsub
  have agree : p.outcome.isSome = true →
      (s.publish p).settled p.sourceId = (s.publish p).target p.sourceId := by
    intro hsome
    obtain ⟨b, hb⟩ := Option.isSome_iff_exists.1 hsome
    rw [hsettled, htarget, if_pos rfl, if_pos rfl, hb]
    rfl
  have same : ∀ sourceId, (sourceId = p.sourceId → p.outcome = none) →
      (s.publish p).settled sourceId = s.settled sourceId ∧
        (s.publish p).target sourceId = s.target sourceId := by
    intro sourceId hnone
    rw [hsettled, htarget]
    split
    next h => simp [hnone h]
    next => exact ⟨rfl, rfl⟩
  have told : ∀ sourceId, (sourceId = p.sourceId ∧ p.outcome.isSome = true) ∨
      (sourceId = p.sourceId → p.outcome = none) := by
    intro sourceId
    by_cases heq : sourceId = p.sourceId
    · cases houtcome : p.outcome with
      | none => exact .inr fun _ => rfl
      | some b => exact .inl ⟨heq, rfl⟩
    · exact .inr fun h => absurd h heq
  constructor
  · intro sourceId
    obtain ⟨rfl, hsome⟩ | hnone := told sourceId
    · rw [agree hsome]
      exact id
    · rw [(same sourceId hnone).1, (same sourceId hnone).2]
      exact h.settled_target sourceId
  · intro sourceId hw
    obtain ⟨rfl, hsome⟩ | hnone := told sourceId
    · exact agree hsome
    · rw [(same sourceId hnone).1, (same sourceId hnone).2]
      obtain hw | ⟨_, heq, hsome⟩ := waiting_publish published hw
      · exact h.waiting sourceId hw
      · rw [hnone heq] at hsome
        cases hsome
  · intro q hq hqd hqo
    rcases List.mem_append.1 hq with hq | hq
    · have hne := alone q hq
      rw [(same q.sourceId (fun heq => absurd heq hne)).1,
        (same q.sourceId (fun heq => absurd heq hne)).2]
      exact h.delivered q hq hqd hqo
    · rw [List.mem_singleton] at hq
      subst hq
      exact agree hqo
  · intro sources hsources sourceId ht
    obtain ⟨rfl, hsome⟩ | hnone := told sourceId
    · left
      rw [agree hsome]
      exact ht
    · rw [(same sourceId hnone).2] at ht
      rw [(same sourceId hnone).1]
      exact h.snapshot sources hsources sourceId ht

/-- A publish that the worker misses: it has no jobs yet, and no snapshot if the notice matters. -/
lemma Early.publish_missed (h : Early s) (published : Published s p)
    (alone : ∀ q ∈ s.inflight, q.sourceId ≠ p.sourceId) (hsub : s.subscribed = false)
    (hdelivered : p.delivered = false) (hinbox : s.inbox = [])
    (hjobs : ∀ jobId, s.manager.jobs jobId = none)
    (heard : p.outcome.isSome = true → s.snapshot = none) : Early (s.publish p) := by
  have htarget := target_publish published alone
  have hsettled : ∀ sourceId, (s.publish p).settled sourceId = false := by
    intro sourceId
    rw [settled_publish_of_not_subscribed hsub]
    simp [System.settled, hinbox, hjobs]
  constructor
  · intro sourceId hs
    rw [hsettled] at hs
    cases hs
  · intro sourceId hw
    obtain ⟨b, hb⟩ | ⟨hsub', _⟩ := waiting_publish published hw
    · simp [hinbox] at hb
    · rw [hsub] at hsub'
      cases hsub'
  · intro q hq hqd hqo
    rcases List.mem_append.1 hq with hq | hq
    · rw [settled_publish_of_not_subscribed hsub, htarget, if_neg (alone q hq)]
      exact h.delivered q hq hqd hqo
    · rw [List.mem_singleton] at hq
      subst hq
      rw [hdelivered] at hqd
      cases hqd
  · intro sources hsources sourceId ht
    -- with a snapshot read, a missed notice is one that concerns no job
    have houtcome : p.outcome = none := by
      cases houtcome : p.outcome with
      | none => rfl
      | some b =>
        have hnone : s.snapshot = none := heard (by rw [houtcome]; rfl)
        have hsources : s.snapshot = some sources := hsources
        rw [hnone] at hsources
        cases hsources
    rw [htarget, houtcome, Option.getD_none, ite_self] at ht
    rw [settled_publish_of_not_subscribed hsub]
    exact h.snapshot sources hsources sourceId ht

/-- A safe publication keeps the system sound. -/
lemma Sound.publish (h : Sound s) (published : Published s p)
    (hdelivered : p.delivered = s.subscribed) {request : SourceService.Request}
    (safe : Safe s (.publish request p)) : Sound (s.publish p) := by
  obtain ⟨alone, heard⟩ := safe
  have htarget := target_publish published alone
  exact {
    distinct := by
      show ((s.inflight ++ [p]).map (·.sourceId)).Nodup
      rw [List.map_append, List.nodup_append]
      refine ⟨h.distinct, by simp, ?_⟩
      intro a ha b hb
      obtain ⟨q, hq, rfl⟩ := List.mem_map.1 ha
      rw [List.map_singleton, List.mem_singleton] at hb
      rw [hb]
      exact alone q hq
    row_id := by
      intro q hq
      rcases List.mem_append.1 hq with hq | hq
      · exact h.row_id q hq
      · rw [List.mem_singleton] at hq
        rw [hq]
        exact published.row_id
    outcome := by
      intro q hq
      rcases List.mem_append.1 hq with hq | hq
      · exact h.outcome q hq
      · rw [List.mem_singleton] at hq
        rw [hq]
        exact published.outcome
    inbox := by
      intro n hn
      simp only [System.publish] at hn
      split at hn
      · rcases List.mem_append.1 hn with hn | hn
        · exact h.inbox n hn
        · exact (published.source n (by simpa using hn)).2
      · exact h.inbox n hn
    sources := h.sources
    collections := h.collections
    unsubscribed := by
      intro hsub
      have hsub : s.subscribed = false := hsub
      simp only [System.publish, hsub]
      exact h.unsubscribed hsub
    unscheduled := h.unscheduled
    read := h.read
    early := by
      intro hnot
      cases hsub : s.subscribed with
      | true => exact (h.early hnot).publish_heard published alone hsub
      | false =>
        apply (h.early hnot).publish_missed published alone hsub (hdelivered.trans hsub)
          (h.unsubscribed hsub) (h.unscheduled hsub hnot)
        intro hsome
        rw [← Option.not_isSome_iff_eq_none]
        intro hread
        rw [heard hsome hread] at hsub
        cases hsub
    late := by
      intro hscheduled sourceId
      have hlate := h.late hscheduled sourceId
      rw [htarget]
      cases hsub : s.subscribed with
      | true => rw [settled_publish_of_subscribed published hsub, hlate]
      | false =>
        have houtcome : p.outcome = none := by
          rw [← Option.not_isSome_iff_eq_none]
          intro hsome
          rw [heard hsome (h.read hscheduled)] at hsub
          cases hsub
        rw [settled_publish_of_not_subscribed hsub, hlate, houtcome, Option.getD_none, ite_self] }

end

/-! ## The worker -/

/-- Subscribing keeps the system sound. -/
lemma Sound.subscribe {s : System} (h : Sound s) : Sound { s with subscribed := true } where
  distinct := h.distinct
  row_id := h.row_id
  outcome := h.outcome
  inbox := h.inbox
  sources := h.sources
  collections := h.collections
  unsubscribed := fun hsub => by cases hsub
  unscheduled := fun hsub => by cases hsub
  read := h.read
  early := fun hnot =>
    (h.early hnot).congr (fun _ => rfl) (fun _ => rfl) (fun _ hw => hw) (fun _ hp => hp) rfl
  late := h.late

/-- A snapshot has what the worker has not been told of. -/
lemma Sound.readSnapshot {s : System} (h : Sound s)
    (safe : Safe s .readSnapshot) :
    Sound { s with snapshot := some (activeSources s.db.tables) } where
  distinct := h.distinct
  row_id := h.row_id
  outcome := h.outcome
  inbox := h.inbox
  sources := by
    intro sources hsources row hrow
    cases hsources
    obtain ⟨source, hmem, rfl⟩ := List.mem_map.1 hrow
    rw [List.mem_filter] at hmem
    exact ⟨s.db.storable source hmem.1, hmem.2⟩
  collections := h.collections
  unsubscribed := h.unsubscribed
  unscheduled := h.unscheduled
  read := fun _ => rfl
  early := by
    intro hnot
    have early := h.early hnot
    refine ⟨early.settled_target, early.waiting, early.delivered, ?_⟩
    intro sources hsources sourceId ht
    cases hsources
    have ht : s.target sourceId = true := ht
    show s.settled sourceId = true ∨ _
    have listed : s.db.tables.active sourceId = true →
        ∃ row ∈ activeSources s.db.tables, row.1.id = sourceId := by
      intro hactive
      obtain ⟨source, hmem, hactive, hid⟩ := (s.db.active_iff sourceId).1 hactive
      exact ⟨_, List.mem_map_of_mem (List.mem_filter.2 ⟨hmem, hactive⟩), hid⟩
    -- a source in flight is in the snapshot or its notice has been delivered
    by_cases hp : ∃ p ∈ s.inflight, p.sourceId = sourceId
    · obtain ⟨p, hp, rfl⟩ := hp
      have hactive : p.active = true := by
        rw [← targetOf_of_mem s.db.tables h.distinct hp]
        exact ht
      have houtcome := h.outcome p hp
      cases ho : p.outcome with
      | none =>
        rw [ho, Option.getD_none, hactive] at houtcome
        exact .inr (listed houtcome)
      | some b =>
        rw [ho, Option.getD_some, hactive] at houtcome
        left
        rw [early.delivered p hp (safe p hp (by rw [ho, houtcome])) (by rw [ho]; rfl)]
        exact ht
    · right
      apply listed
      rw [← targetOf_of_ne s.db.tables (fun p hmem heq => hp ⟨p, hmem, heq⟩)]
      exact ht
  late := h.late

/-- Scheduling what was read keeps the system sound. -/
lemma Sound.schedule {lib : Apscheduler} {tenantSettingsMap : String → Option Dict} {s : System}
    {sources : List (Source × String)} (h : Sound s) (read : s.snapshot = some sources)
    (unscheduled : s.scheduled = false) (safe : Safe s .schedule) :
    Sound { s with
      scheduled := true
      manager := s.manager.scheduleAllActiveSources lib tenantSettingsMap sources } := by
  have early := h.early unscheduled
  have hsources := h.sources sources read
  have hjobs := @isSome_scheduleAllActiveSources lib tenantSettingsMap sources
    (fun row hrow => (hsources row hrow).1) s.manager
  exact {
    distinct := h.distinct
    row_id := h.row_id
    outcome := h.outcome
    inbox := h.inbox
    sources := h.sources
    collections := by
      intro jobId hjob
      obtain ⟨row, _, _, heq⟩ | hjob := (hjobs jobId).1 hjob
      · exact ⟨row.1.id, heq⟩
      · exact h.collections jobId hjob
    unsubscribed := h.unsubscribed
    unscheduled := fun _ hnot => by cases hnot
    read := fun _ => by rw [read]; rfl
    early := fun hnot => by cases hnot
    late := by
      intro _ sourceId
      show LastWrite.apply (s.inbox.map (outcomeFor sourceId)) _ = s.target sourceId
      -- a waiting notice has the last word on its job; without one the snapshot has
      by_cases hw : s.Waiting sourceId
      · obtain ⟨b, hb⟩ := hw
        rw [← early.waiting sourceId ⟨b, hb⟩]
        exact LastWrite.apply_of_mem hb _ _
      · have hnone : ∀ b, some b ∉ s.inbox.map (outcomeFor sourceId) := fun b hb => hw ⟨b, hb⟩
        have hsettled : s.settled sourceId = (s.manager.jobs (collectJobId sourceId)).isSome :=
          LastWrite.apply_of_not_mem hnone _
        rw [LastWrite.apply_of_not_mem hnone, Bool.eq_iff_iff, hjobs]
        constructor
        · rintro (⟨row, hrow, _, heq⟩ | hjob)
          · rw [collectJobId_inj] at heq
            subst heq
            exact (safe sources read row hrow).resolve_right hw
          · exact early.settled_target sourceId (hsettled.trans hjob)
        · intro ht
          obtain hs | ⟨row, hrow, rfl⟩ := early.snapshot sources read sourceId ht
          · exact .inr (hsettled.symm.trans hs)
          · exact .inl ⟨row, hrow, (hsources row hrow).2, rfl⟩ }

/-- Handling a notice keeps the system sound. -/
lemma Sound.handle {lib : Apscheduler} {tenantSettings : String → Dict} {s : System}
    {n : LifecycleNotice} {rest : List LifecycleNotice} (h : Sound s)
    (waiting : s.inbox = n :: rest) :
    Sound { s with
      inbox := rest
      manager := handleSourceStatusEvent lib s.db.tables tenantSettings s.manager n.payload } := by
  have storable : n.source.Storable := h.inbox n (by rw [waiting]; exact List.mem_cons_self)
  have hjobs := @isSome_handleSourceStatusEvent lib s.db.tables tenantSettings s.manager n storable
  have hsettled : ∀ sourceId, System.settled { s with
      inbox := rest
      manager := handleSourceStatusEvent lib s.db.tables tenantSettings s.manager n.payload }
        sourceId = s.settled sourceId := by
    intro sourceId
    unfold System.settled
    simp only [waiting, List.map_cons, LastWrite.apply_cons, hjobs, collectJobId_inj]
    congr 1
    unfold outcomeFor
    by_cases heq : n.source.id = sourceId
    · rw [if_pos heq.symm, if_pos heq]
    · rw [if_neg (Ne.symm heq), if_neg heq]
      rfl
  exact {
    distinct := h.distinct
    row_id := h.row_id
    outcome := h.outcome
    inbox := fun m hm => h.inbox m (by rw [waiting]; exact List.mem_cons_of_mem _ hm)
    sources := h.sources
    collections := by
      intro jobId hjob
      rw [hjobs] at hjob
      split at hjob
      next heq => exact ⟨n.source.id, heq⟩
      next => exact h.collections jobId hjob
    unsubscribed := by
      intro hsub
      have hempty := h.unsubscribed hsub
      rw [waiting] at hempty
      cases hempty
    unscheduled := by
      intro hsub
      have hempty := h.unsubscribed hsub
      rw [waiting] at hempty
      cases hempty
    read := h.read
    early := by
      intro hnot
      apply (h.early hnot).congr hsettled (fun _ => rfl) _ (fun _ hp => hp) rfl
      rintro sourceId ⟨b, hb⟩
      exact ⟨b, by rw [waiting]; exact List.mem_cons_of_mem _ hb⟩
    late := fun hscheduled sourceId => (hsettled sourceId).trans (h.late hscheduled sourceId) }

/-! ## Runs -/

/-- A safe step keeps the system sound. -/
lemma Sound.step {lib : Apscheduler} {s s' : System} {a : Act} (safe : Safe s a) (h : Sound s)
    (hst : Step lib s a s') : Sound s' := by
  cases hst with
  | publish handled fresh flushed held =>
    subst held
    exact h.publish (published_of_handle handled fresh flushed) rfl safe
  | commit held written => exact h.commit held written
  | abort held => exact h.abort held safe
  | subscribe => exact h.subscribe
  | readSnapshot _ => exact h.readSnapshot safe
  | schedule read unscheduled => exact h.schedule read unscheduled safe
  | handle waiting => exact h.handle waiting

/-- At rest nothing is waiting: the jobs are the targets, and these are what the database holds. -/
lemma Sound.converged {s : System} (h : Sound s) (rest : Quiescent s) : Converged s := by
  have hjob : ∀ sourceId, (s.manager.jobs (collectJobId sourceId)).isSome =
      s.db.tables.active sourceId := by
    intro sourceId
    have hlate := h.late rest.scheduled sourceId
    unfold System.settled System.target at hlate
    rw [rest.inbox, rest.inflight] at hlate
    exact hlate
  intro jobId
  constructor
  · intro hsome
    obtain ⟨sourceId, rfl⟩ := h.collections jobId hsome
    rw [hjob, s.db.active_iff] at hsome
    obtain ⟨source, hmem, hactive, rfl⟩ := hsome
    exact ⟨source, hmem, hactive, rfl⟩
  · rintro ⟨source, hmem, hactive, rfl⟩
    rw [hjob, s.db.active_iff]
    exact ⟨source, hmem, hactive, rfl⟩

/-- A run whose steps all meet the condition has converged whenever it comes to rest. -/
theorem converged_of_safe {lib : Apscheduler} {db : Database} {acts : List Act} {s : System}
    (run : Guarded (Step lib) Safe (start db) acts s) (rest : Quiescent s) : Converged s := by
  have sound : Sound s := run.invariant (fun safe h hst => h.step safe hst) (Sound.start db)
  exact sound.converged rest

/-! ## Sample runs -/

/-- One source, active or not. -/
def sampleDb (isActive : Bool) : Database where
  tables := { tenants := [], categories := [], sources := [{ Source.sample with isActive }] }
  ids_nodup := by simp
  storable := by
    intro source hmem
    rw [List.mem_singleton] at hmem
    subst hmem
    refine ⟨?_, ?_⟩
    · show "7" ≠ ""
      decide
    · intro i hi
      cases hi
      decide

/-- Its owner disables it. -/
def disable : SourceService.Request :=
  .update "7" ⟨none, none, none, none, none, some false, none⟩ SYSTEM_TENANT_ID

def disabled : LifecycleNotice :=
  .toggled { Source.sample with isActive := false } ""

def disabling : Pending :=
  .ofRequest disable (sampleDb false).tables (some disabled) true

/-- The sample request switches the source off. -/
lemma handle_disable :
    SourceService.handle (sampleDb true).tables disable =
      .ok ((sampleDb false).tables, some disabled) := rfl

/-- The publish of the request, from any state with the active source and a subscribed worker. -/
lemma publish_disable {s : System} (hdb : s.db = sampleDb true) (hsub : s.subscribed = true) :
    Step .sample s (.publish disable disabling) (s.publish disabling) := by
  apply Step.publish (by rw [hdb]; exact handle_disable)
  · intro data tenantId id h
    cases h
  · intro row hrow
    exact (sampleDb false).storable row (Tables.source?_eq_some hrow).1
  · rw [hsub]
    rfl

/-- The worker starts, and then the source is disabled. -/
theorem disabledLater_converged :
    ∃ s, Guarded (Step .sample) Safe (start (sampleDb true))
        [.subscribe, .readSnapshot, .schedule, .publish disable disabling, .commit disabling,
          .handle] s ∧ Quiescent s ∧ Converged s := by
  have listed : ∀ s : System, s.snapshot = some (activeSources (sampleDb true).tables) →
      s.target "7" = true → Safe s .schedule := by
    intro s hsnapshot htarget sources hsources row hrow
    rw [hsnapshot] at hsources
    cases hsources
    rw [show activeSources (sampleDb true).tables = [(Source.sample, "")] from rfl,
      List.mem_singleton] at hrow
    subst hrow
    exact .inl htarget
  have run : Guarded (Step .sample) Safe (start (sampleDb true))
      [.subscribe, .readSnapshot, .schedule, .publish disable disabling, .commit disabling,
        .handle] _ :=
    .cons trivial .subscribe
      (.cons (by intro p hp; cases hp) (.readSnapshot rfl)
      (.cons (listed _ rfl rfl) (@Step.schedule _ _ _ (fun _ => none) rfl rfl)
      (.cons ⟨(by intro q hq; cases hq), fun _ _ => rfl⟩ (publish_disable rfl rfl)
      (.cons trivial (@Step.commit _ _ [] _ [] (sampleDb false) rfl rfl)
      (.cons trivial (@Step.handle _ _ _ _ (fun _ => []) rfl) .nil)))))
  exact ⟨_, run, ⟨rfl, rfl, rfl⟩, converged_of_safe run ⟨rfl, rfl, rfl⟩⟩

/-- The source is disabled after the snapshot was read and before it is scheduled: the notice is
handled when there is no job yet, and the stale snapshot brings the job back. -/
theorem staleSnapshot_not_converged :
    ¬ ∀ (lib : Apscheduler) (db : Database) (acts : List Act) (s : System),
      Steps (Step lib) (start db) acts s → Quiescent s → Converged s := by
  intro h
  have converged := h .sample (sampleDb true)
    [.subscribe, .readSnapshot, .publish disable disabling, .commit disabling, .handle, .schedule] _
    (.cons .subscribe (.cons (.readSnapshot rfl) (.cons (publish_disable rfl rfl)
      (.cons (@Step.commit _ _ [] _ [] (sampleDb false) rfl rfl)
      (.cons (@Step.handle _ _ _ _ (fun _ => []) rfl)
      (.cons (@Step.schedule _ _ _ (fun _ => none) rfl rfl) .nil))))))
    ⟨rfl, rfl, rfl⟩
  obtain ⟨source, hmem, hactive, _⟩ := (converged "collect_7").1 rfl
  have hmem : source ∈ (sampleDb false).tables.sources := hmem
  rw [show (sampleDb false).tables.sources = [{ Source.sample with isActive := false }] from rfl,
    List.mem_singleton] at hmem
  subst hmem
  cases hactive

end Worker

end InstantBoard
