import InstantBoard.Lib.Transition
import InstantBoard.Services.Source

/-!
# Active sources without a collector

The service refuses to create or to enable a source that no collector can run, since it would be active
forever without collecting anything. It looks at the collector only where the request itself says
`is_active`: an update of the type or the config of a source that is active already is not checked.

`collectable_iff`: these updates (`Silences`) are the only way to an active source without a collector.
-/

namespace InstantBoard.Activation

open Fallible SourceService Transition

/-- A source that is active has a collector. -/
def Collectable (s : Source) : Prop :=
  s.isActive = true → (resolveCollector s.sourceType s.config).isSome = true

def AllCollectable (db : Tables) : Prop :=
  ∀ s ∈ db.sources, Collectable s

/-- An update of an active source that takes its collector away and does not mention `is_active`. -/
def Silences (db : Tables) : Request → Prop
  | .update sourceId data _ => data.isActive = none ∧ ∃ s, db.source? sourceId = some s ∧
      s.isActive = true ∧ resolveCollector (data.sourceType.getD s.sourceType)
        ((data.config.getD none).getD s.config) = none
  | _ => False

/-- A request that is handled. -/
def Step (db : Tables) (r : Request) (db' : Tables) : Prop :=
  ∃ notice, handle db r = .ok (db', notice)

/-- A type that passes the check has a collector. -/
lemma isSome_of_check {sourceType : String} {config : Dict} {u : Unit}
    (h : checkCollectorAvailable sourceType config = .ok u) :
    (resolveCollector sourceType config).isSome = true := by
  unfold checkCollectorAvailable at h
  split at h
  · assumption
  · cases h

/-- A source that is created. -/
lemma createSource_checked {db db' : Tables} {data : SourceCreate} {tenantId id : String}
    {notice : Option LifecycleNotice} (h : createSource db data tenantId id = .ok (db', notice)) :
    ∃ source, db' = { db with sources := db.sources ++ [source] } ∧ Collectable source := by
  unfold createSource at h
  split at h
  next tenant htenant =>
    dsimp only at h
    split at h
    · cases h
    · split at h
      next category hcategory =>
        split at h
        · cases h
        · obtain ⟨_, _, h⟩ := bind_eq_ok.1 h
          split at h
          · obtain ⟨_, hcheck, h⟩ := bind_eq_ok.1 h
            cases h
            exact ⟨_, rfl, fun _ => isSome_of_check hcheck⟩
          · rename_i hinactive
            cases h
            exact ⟨_, rfl, fun hactive => absurd hactive hinactive⟩
      next => cases h
  next => cases h

/-- An update that enables its source. -/
lemma updateSource_checked {db db' : Tables} {sourceId : String} {data : SourceUpdate}
    {tenantId : String} {notice : Option LifecycleNotice} {source : Source}
    (h : updateSource db sourceId data tenantId = .ok (db', notice))
    (hsource : db.source? sourceId = some source) (henabled : data.isActive = some true) :
    (resolveCollector (data.sourceType.getD source.sourceType)
      ((data.config.getD none).getD source.config)).isSome = true := by
  unfold updateSource at h
  rw [hsource] at h
  dsimp only at h
  split at h
  · cases h
  · split at h
    next newType hnewType =>
      obtain ⟨_, _, h⟩ := bind_eq_ok.1 h
      obtain ⟨_, hcheck, -⟩ := bind_eq_ok.1 h
      exact isSome_of_check hcheck
    next =>
      obtain ⟨_, hcheck, -⟩ := bind_eq_ok.1 h
      exact isSome_of_check hcheck

/-- The row an update leaves. -/
lemma collectable_applyUpdate_iff {db db' : Tables} {sourceId : String} {data : SourceUpdate}
    {tenantId : String} {notice : Option LifecycleNotice} {source : Source}
    (h : updateSource db sourceId data tenantId = .ok (db', notice))
    (hsource : db.source? sourceId = some source) :
    Collectable (applyUpdate source data) ↔ ¬ Silences db (.update sourceId data tenantId) := by
  have hmissing : (resolveCollector (data.sourceType.getD source.sourceType)
      ((data.config.getD none).getD source.config)).isSome = true ↔
        ¬ resolveCollector (data.sourceType.getD source.sourceType)
          ((data.config.getD none).getD source.config) = none := by
    rw [Option.isSome_iff_ne_none]
  have hsilences : Silences db (.update sourceId data tenantId) ↔ data.isActive = none ∧
      source.isActive = true ∧ resolveCollector (data.sourceType.getD source.sourceType)
        ((data.config.getD none).getD source.config) = none := by
    simp [Silences, hsource]
  rw [hsilences]
  unfold Collectable applyUpdate
  cases hactive : data.isActive with
  | none =>
    -- nothing has been checked
    simp only [Option.getD_none, true_and, not_and]
    rw [hmissing]
  | some active =>
    cases active with
    | false => simp
    | true =>
      have hchecked := updateSource_checked h hsource hactive
      simp [hchecked]

/-- A step keeps every active source collectable unless it silences one. -/
lemma step_collectable_iff {db db' : Tables} {r : Request} (h : AllCollectable db)
    (step : Step db r db') : AllCollectable db' ↔ ¬ Silences db r := by
  obtain ⟨notice, hhandle⟩ := step
  cases r with
  | create data tenantId id =>
    obtain ⟨source, rfl, hsource⟩ := createSource_checked hhandle
    refine iff_of_true (fun s hs => ?_) (fun hsilenced => hsilenced)
    rcases List.mem_append.1 hs with hs | hs
    · exact h s hs
    · rw [List.mem_singleton.1 hs]
      exact hsource
  | update sourceId data tenantId =>
    obtain ⟨source, hsource, rfl, -⟩ := updateSource_eq_ok hhandle
    rw [← collectable_applyUpdate_iff hhandle hsource]
    constructor
    · intro hall
      refine hall _ (List.mem_map.2 ⟨source, List.mem_of_find?_eq_some hsource, ?_⟩)
      have hid := List.find?_some hsource
      exact if_pos (eq_of_beq hid)
    · intro hupdated s hs
      obtain ⟨old, hold, rfl⟩ := List.mem_map.1 hs
      split
      · exact hupdated
      · exact h old hold
  | delete sourceId tenantId =>
    obtain ⟨source, -, rfl, -⟩ := deleteSource_eq_ok hhandle
    exact iff_of_true (fun s hs => h s (List.mem_filter.1 hs).1) (fun hsilenced => hsilenced)

/-- A step leaves one state. -/
lemma step_det {db db₁ db₂ : Tables} {r : Request} (h₁ : Step db r db₁) (h₂ : Step db r db₂) :
    db₁ = db₂ := by
  obtain ⟨_, h₁⟩ := h₁
  obtain ⟨_, h₂⟩ := h₂
  rw [h₁] at h₂
  cases h₂
  rfl

/-- Every active source has a collector all along a run exactly when no request of it silences one. -/
theorem collectable_iff {db db' : Tables} {rs : List Request} (h : AllCollectable db) :
    Guarded Step (fun db r => ¬ Silences db r) db rs db' ↔
      Steps Step db rs db' ∧
        ∀ before u, before <+: rs → Steps Step db before u → AllCollectable u := by
  rw [← Guarded.along_iff (R := Step) (I := AllCollectable) (fun h₁ h₂ => step_det h₁ h₂)]
  exact Guarded.iff_along (W := fun _ => True) (fun _ _ => trivial)
    (fun _ hall step => step_collectable_iff hall step) trivial h

/-- A feed whose type is changed to one that has no collector of its own. -/
theorem collectable_iff_retyped :
    let feed : Source := ⟨"feed", "tenant", "category", "Feed", "rss", "https://feed.example", [], none, true, 5⟩
    let retyped : Request := .update "feed" ⟨none, some "api", none, none, none, none, none⟩ "tenant"
    let db : Tables := ⟨[], [], [feed]⟩
    Silences db retyped ∧
      ¬ ∀ before u, before <+: [retyped] → Steps Step db before u → AllCollectable u := by
  intro feed retyped db
  have hfeed : AllCollectable db := by
    intro s hs _
    rw [List.mem_singleton.1 hs]
    rfl
  have hsilenced : Silences db retyped := ⟨rfl, feed, rfl, rfl, rfl⟩
  refine ⟨hsilenced, fun hall => ?_⟩
  have hstep : Step db retyped ⟨[], [], [{ feed with sourceType := "api" }]⟩ := ⟨none, rfl⟩
  cases (collectable_iff hfeed).2 ⟨.single hstep, hall⟩ with
  | cons hquiet _ _ => exact hquiet hsilenced

end InstantBoard.Activation
