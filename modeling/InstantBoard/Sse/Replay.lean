import InstantBoard.Sse.Exec
import InstantBoard.Sse.Recorded

/-!
# Replay over several channels

`collect_replay_events` over a selection of channels, for every reachable state. The replay is
complete (`ReplayComplete`) when it has the caller's events of every selected channel that were
published after the anchor event, each once, in order of publication. Each channel is searched for
the anchor on its own, so it is complete exactly when in every selected channel the caller's
events after the anchor are those that some event with the anchor's id precedes in that channel
(`collectReplayEvents_complete_iff`). A channel without the anchor contributes nothing, and
`crossChannel_gap` is a run where that loses an event.
-/

namespace InstantBoard.Sse

open Transition

/-! ## Ids, tenants and times of stored events -/

/-- The filter of the replay is the filter of the live dispatch. -/
lemma Event.foreign_eq (e : Event) (t : TenantId) : e.foreign t.val = !e.admits t := by
  have hne : (t.val != "") = true := by simpa using t.ne_empty
  simp only [Event.foreign, Event.admits, hne, Bool.true_and, Bool.not_not]

/-- A pushed event is kept for its own tenant only. -/
lemma Event.foreign_pushed {e : Event} {p : PushEvent} (h : e.body = .pushed p) (t : TenantId) :
    e.foreign t.val = false ↔ e.OwnedBy t := by
  rw [Event.foreign_eq, Bool.not_eq_false', Event.admits_pushed h]
  constructor
  · intro ht
    exact ⟨p, h, ht⟩
  · rintro ⟨p', hp', ht⟩
    rw [h] at hp'
    cases hp'
    exact ht

/-- A pushed event is found by the id its call gave it. -/
lemma Event.hasId_pushed {e : Event} {p : PushEvent} (h : e.body = .pushed p) (id : String) :
    e.hasId id = true ↔ eventId p.second p.counter = id := by
  simp [Event.hasId, Event.message, h, Body.message, Dict.getD]

/-- The key of a pushed event is its time. -/
lemma Event.publishedKey_pushed {e : Event} {p : PushEvent} (h : e.body = .pushed p) :
    e.publishedKey = p.publishedAt.isoformat := by
  simp [Event.publishedKey, Event.message, h, Body.message]

/-- `a` was published no later than `b`, by the times in their messages. -/
def Event.NotAfter (a b : Event) : Prop :=
  ∀ p q, a.body = .pushed p → b.body = .pushed q → p.publishedAt ≤ q.publishedAt

/-! ## The merge -/

/-- The sort orders by time: ISO texts compare as the times do. -/
lemma sortByPublishedAt_ordered (l : List Event) :
    (sortByPublishedAt l).Pairwise Event.NotAfter := by
  have hsorted := List.pairwise_insertionSort
    (fun a b : Event => a.publishedKey ≤ b.publishedKey) l
  refine hsorted.imp ?_
  intro a b hab p q hp hq
  rw [Event.publishedKey_pushed hp, Event.publishedKey_pushed hq] at hab
  exact Calendar.isoformat_le_iff.1 hab

/-- No place of the log is replayed twice when no channel is selected twice. -/
lemma World.Recorded.replay_nodup {w : World} (hw : w.Recorded) {channels : List String}
    (hsel : channels.Nodup) (id tenantId : String) :
    ((channels.flatMap fun c => getMissedEvents w.redis c id tenantId).map (·.seq)).Nodup := by
  rw [List.map_flatMap, List.nodup_flatMap]
  refine ⟨?_, ?_⟩
  · intro c _
    have hsub : (getMissedEvents w.redis c id tenantId).Sublist (w.redis.chronological c) := by
      rw [getMissedEvents_eq_filter (hw.sorted c)]
      exact List.filter_sublist
    have := (hw.sorted c).sublist hsub
    exact (List.pairwise_map.2 this).imp Nat.ne_of_lt
  · refine hsel.imp ?_
    intro c c' hcc n hn hn'
    obtain ⟨e, he, hes⟩ := List.mem_map.1 hn
    obtain ⟨e', he', hes'⟩ := List.mem_map.1 hn'
    have hec := ((mem_getMissedEvents (hw.sorted c)).1 he).1
    have hec' := ((mem_getMissedEvents (hw.sorted c')).1 he').1
    -- one place, one publication, one channel
    have hee : e = e' := (hw.history hec).eq_of_seq (hw.history hec') (hes.trans hes'.symm)
    subst hee
    obtain ⟨p, hp, hpc⟩ := hw.category hec
    obtain ⟨p', hp', hpc'⟩ := hw.category hec'
    rw [hp] at hp'
    cases hp'
    exact hcc (hpc.symm.trans hpc')

/-- The replay of the selected channels is complete: the tenant's events published after the
anchor, each once, in order of publication. -/
structure ReplayComplete (w : World) (selected : List String) (anchor : Event) (t : TenantId)
    (replay : List Event) : Prop where
  mem_iff : ∀ e, e ∈ replay ↔ ∃ c ∈ selected, e ∈ w.redis.chronological c ∧ e.OwnedBy t ∧
    anchor.seq < e.seq
  once : (replay.map (·.seq)).Nodup
  ordered : replay.Pairwise Event.NotAfter

/-- The replay over several channels is complete after an anchor event exactly when each selected
channel can see the anchor from its own events: the tenant's events after it are those that an
event with the anchor's id precedes in the same history. No channel is selected twice
(`parseChannels_ok`). -/
theorem collectReplayEvents_complete_iff {w : World} (hw : w.Reachable)
    {channels : Option (List String)} (hsel : (selectedOrAll channels).Nodup) (anchor : Event)
    (id : String) (t : TenantId) :
    ReplayComplete w (selectedOrAll channels) anchor t
        (collectReplayEvents w.redis "all" id t.val channels) ↔
      ∀ c ∈ selectedOrAll channels, ∀ e ∈ w.redis.chronological c, e.OwnedBy t →
        (anchor.seq < e.seq ↔ ∃ a ∈ w.redis.chronological c, a.hasId id = true ∧ a.seq < e.seq) := by
  have hr := hw.recorded
  have hperm := collectReplayEvents_perm w.redis id t.val channels
  have hmem : ∀ e, e ∈ collectReplayEvents w.redis "all" id t.val channels ↔
      ∃ c ∈ selectedOrAll channels, e ∈ w.redis.chronological c ∧ e.OwnedBy t ∧
        ∃ a ∈ w.redis.chronological c, a.hasId id = true ∧ a.seq < e.seq := by
    intro e
    rw [hperm.mem_iff, List.mem_flatMap]
    refine exists_congr fun c => and_congr_right fun _ => ?_
    rw [mem_getMissedEvents (hr.sorted c)]
    refine and_congr_right fun he => and_congr_left fun _ => ?_
    obtain ⟨p, hp, _⟩ := hr.category he
    exact Event.foreign_pushed hp t
  constructor
  · intro hcomplete c hc e he hown
    have h := (hmem e).symm.trans (hcomplete.mem_iff e)
    -- an event is in the history of its own channel only
    have hchannel : ∀ c', e ∈ w.redis.chronological c' → c' = c := by
      intro c' he'
      obtain ⟨p, hp, hpc⟩ := hr.category he
      obtain ⟨p', hp', hpc'⟩ := hr.category he'
      rw [hp] at hp'
      cases hp'
      exact hpc'.symm.trans hpc
    constructor
    · intro hlt
      obtain ⟨c', _, he', _, ha⟩ := h.2 ⟨c, hc, he, hown, hlt⟩
      rw [hchannel c' he'] at ha
      exact ha
    · intro ha
      obtain ⟨_, _, _, _, hlt⟩ := h.1 ⟨c, hc, he, hown, ha⟩
      exact hlt
  · intro hsees
    refine ⟨?_, ?_, ?_⟩
    · intro e
      rw [hmem]
      refine exists_congr fun c => and_congr_right fun hc => and_congr_right fun he =>
        and_congr_right fun hown => ?_
      exact (hsees c hc e he hown).symm
    · exact (hperm.map _).nodup_iff.2 (hr.replay_nodup hsel id t.val)
    · unfold collectReplayEvents arrange
      rw [if_pos rfl]
      exact sortByPublishedAt_ordered _

/-- With ids that are not reused the condition is about the other channels only: none of them has
an event of the tenant after the anchor. -/
theorem sees_iff_of_unique {w : World} (hw : w.Recorded) {selected : List String} {anchor : Event}
    {home id : String} (hheld : anchor ∈ w.redis.chronological home) (hid : anchor.hasId id = true)
    (unique : ∀ c ∈ selected, ∀ a ∈ w.redis.chronological c, a.hasId id = true → a = anchor)
    (t : TenantId) :
    (∀ c ∈ selected, ∀ e ∈ w.redis.chronological c, e.OwnedBy t →
        (anchor.seq < e.seq ↔ ∃ a ∈ w.redis.chronological c, a.hasId id = true ∧ a.seq < e.seq)) ↔
      ∀ c ∈ selected, c ≠ home → ∀ e ∈ w.redis.chronological c, e.OwnedBy t →
        e.seq ≤ anchor.seq := by
  constructor
  · intro h c hc hne e he hown
    by_contra hlt
    obtain ⟨a, ha, hida, _⟩ := (h c hc e he hown).1 (by omega)
    rw [unique c hc a ha hida] at ha
    obtain ⟨p, hp, hpc⟩ := hw.category ha
    obtain ⟨p', hp', hpc'⟩ := hw.category hheld
    rw [hp] at hp'
    cases hp'
    exact hne (hpc.symm.trans hpc')
  · intro h c hc e he hown
    constructor
    · intro hlt
      by_cases hch : c = home
      · subst hch
        exact ⟨anchor, hheld, hid, hlt⟩
      · have := h c hc hch e he hown
        omega
    · rintro ⟨a, ha, hida, hlt⟩
      rw [unique c hc a ha hida] at hlt
      exact hlt

/-! ## A gap across channels -/

namespace CrossChannel

open Sample

/-- The anchor, a tech event of the worker. -/
def techEvent : PushEvent := itemUpdate (.other 0) "tech" 0 1

/-- A later finance event of the same tenant. -/
def financeEvent : PushEvent := itemUpdate (.other 0) "finance" 5 2

def labels : List Label :=
  [.push techEvent, .store 0 true, .push financeEvent, .store 1 true]

/-- Both events are in the histories. -/
def world : World := start.after labels (by decide)

/-- The sample is reachable. -/
lemma world_reachable : world.Reachable :=
  ⟨_, labels, World.steps_after _ _ _⟩

end CrossChannel

open Sample CrossChannel in
/-- The equivalence there, with the tech event as the anchor. -/
theorem crossChannel_complete_iff :
    ReplayComplete world (selectedOrAll none) ⟨0, .pushed techEvent⟩ tenant
        (collectReplayEvents world.redis "all" "1787652000-1" tenant.val none) ↔
      ∀ c ∈ selectedOrAll none, ∀ e ∈ world.redis.chronological c, e.OwnedBy tenant →
        (0 < e.seq ↔ ∃ a ∈ world.redis.chronological c,
          a.hasId "1787652000-1" = true ∧ a.seq < e.seq) :=
  collectReplayEvents_complete_iff world_reachable
    (show (selectedOrAll none).Nodup from ALL_CHANNELS_nodup) ⟨0, .pushed techEvent⟩
    "1787652000-1" tenant

open Sample CrossChannel in
/-- The client of an "all" stream that saw the tech event last never gets the finance event. -/
theorem crossChannel_gap :
    world.Reachable ∧ (⟨0, .pushed techEvent⟩ : Event) ∈ world.redis.chronological "tech" ∧
      (⟨0, .pushed techEvent⟩ : Event).hasId "1787652000-1" = true ∧
      ¬ ReplayComplete world (selectedOrAll none) ⟨0, .pushed techEvent⟩ tenant
        (collectReplayEvents world.redis "all" "1787652000-1" tenant.val none) := by
  have hheld : (⟨1, .pushed financeEvent⟩ : Event) ∈ world.redis.chronological "finance" :=
    List.mem_singleton.2 rfl
  refine ⟨world_reachable, List.mem_singleton.2 rfl, by decide, ?_⟩
  intro h
  have hmissed := (h.mem_iff ⟨1, .pushed financeEvent⟩).2
    ⟨"finance", by decide, hheld, ⟨financeEvent, rfl, rfl⟩, by decide⟩
  have hempty : (collectReplayEvents world.redis "all" "1787652000-1" tenant.val none).length = 0 :=
    by decide
  rw [List.length_eq_zero_iff.1 hempty] at hmissed
  cases hmissed

end InstantBoard.Sse
