import InstantBoard.Scheduler.Collection

/-!
# The rows of a run and the unique key

The dedup set compares titles and URLs as they were fetched and forgets them after a day;
`uq_items_dedup` compares normalised URLs and times and forgets nothing. So the rows of every run
respect the key exactly if each item whose key is taken already is remembered
(`unsunk_iff_recalls`): an item with the very same title and URL was fetched before and written to
the set, the set has not expired since, and Redis answers the check. An item that is still in the
feed after a day without new items is not, and the commit it takes part in fails
(`refetched_sinks`).
-/

namespace InstantBoard.AsyncSchedulerManager

open ProcessorChain DedupProcessor

variable (py : Stdlib)

/-- The unique key of the row an item gives when the dedup set lets it pass. -/
def rowKey (source : CollectedSource) (f : Fetched) : Option (String × String × Json × Int) :=
  (storeItem py source f (content py source f)).row.map fun row => row.item.uqKey

/-- No duplicate can sink the batch: the rows of the run respect the unique key, and a run that gets
to a commit that nothing else stops is committed. -/
structure Unsunk (store : Store) (run : Run) : Prop where
  unique : uqHolds store.items (runCollection py store run).added
  committed : ReachesCommit py store run → (runCollection py store run).committed = true

/-- Of two items whose rows have the same key the dedup set lets at most one pass, and none whose
row has the key of a stored one. -/
structure Recognised (store : Store) (run : Run) : Prop where
  batch : (considered py store run).Pairwise fun a b =>
    ∀ key, rowKey py run.source a.1 = some key → rowKey py run.source b.1 = some key →
      passes py a = false ∨ passes py b = false
  stored : ∀ t ∈ considered py store run, ∀ row ∈ store.items,
    rowKey py run.source t.1 = some row.item.uqKey → passes py t = false

variable {py} {store : Store} {run : Run}

/-- The row of a turn, by the answer of the dedup set. -/
lemma stored_row_eq_some {t : Fetched × RedisSet} {row : Row} :
    (stored py run.source t).row = some row ↔
      passes py t = true ∧ (storeItem py run.source t.1 (content py run.source t.1)).row = some row := by
  cases h : passes py t with
  | true => simp [stored_of_passes h]
  | false => simp [stored_of_not_passes h]

/-- The key of the row that an item would get. -/
lemma rowKey_eq_some {f : Fetched} {key : String × String × Json × Int} :
    rowKey py run.source f = some key ↔
      ∃ row, (storeItem py run.source f (content py run.source f)).row = some row ∧
        row.item.uqKey = key := by
  simp [rowKey]

/-- The rows of one run respect the unique key exactly when the dedup set recognises their items. -/
lemma uqHolds_iff (py : Stdlib) (store : Store) (run : Run) :
    uqHolds store.items (runCollection py store run).added ↔ Recognised py store run := by
  rw [(runCollection_isReport py store run).added, uqHolds, List.pairwise_filterMap]
  constructor
  · rintro ⟨hb, hs⟩
    refine ⟨hb.imp ?_, ?_⟩
    · intro a b h key ha hb
      obtain ⟨row, hrow, rfl⟩ := rowKey_eq_some.1 ha
      obtain ⟨row', hrow', hkey⟩ := rowKey_eq_some.1 hb
      by_contra hp
      simp only [not_or, Bool.not_eq_false] at hp
      apply h (row, a.1.1.uuid) _ (row', b.1.1.uuid) _ hkey.symm
      · simp [stored_row_eq_some.2 ⟨hp.1, hrow⟩]
      · simp [stored_row_eq_some.2 ⟨hp.2, hrow'⟩]
    · intro t ht row' hmem hk
      obtain ⟨row, hrow, hkey⟩ := rowKey_eq_some.1 hk
      by_contra hp
      apply hs (row, t.1.1.uuid) _ row' hmem hkey
      rw [List.mem_filterMap]
      exact ⟨t, ht, by simp [stored_row_eq_some.2 ⟨by simpa using hp, hrow⟩]⟩
  · rintro ⟨hb, hs⟩
    refine ⟨hb.imp ?_, ?_⟩
    · intro a b h x hx y hy hkey
      obtain ⟨row, hrow, rfl⟩ := Option.map_eq_some_iff.1 hx
      obtain ⟨row', hrow', rfl⟩ := Option.map_eq_some_iff.1 hy
      obtain ⟨hpa, hrow⟩ := stored_row_eq_some.1 hrow
      obtain ⟨hpb, hrow'⟩ := stored_row_eq_some.1 hrow'
      obtain hp | hp := h row.item.uqKey (rowKey_eq_some.2 ⟨row, hrow, rfl⟩)
        (rowKey_eq_some.2 ⟨row', hrow', hkey.symm⟩)
      · rw [hpa] at hp
        cases hp
      · rw [hpb] at hp
        cases hp
    · intro x hx row' hmem hkey
      obtain ⟨t, ht, hx⟩ := List.mem_filterMap.1 hx
      obtain ⟨row, hrow, rfl⟩ := Option.map_eq_some_iff.1 hx
      obtain ⟨hp, hrow⟩ := stored_row_eq_some.1 hrow
      rw [hs t ht row' hmem (rowKey_eq_some.2 ⟨row, hrow, hkey⟩)] at hp
      cases hp

/-! ## What the set remembers -/

/-- The turns of all runs so far, each with the set it found, and the set they leave. -/
inductive Past (py : Stdlib) : List (Fetched × RedisSet) → RedisSet → Prop where
  | nil : Past py [] RedisSet.empty
  | concat {past f s} : Past py past s → Past py (past ++ [(f, s)]) (ask py f s).2

/-- Among the turns is one of an item with this hash of title and URL that was written to the set, and
none after it found the set expired and started it over. -/
def WrittenIn (py : Stdlib) (past : List (Fetched × RedisSet)) (hash : String) : Prop :=
  ∃ earlier u later, past = earlier ++ u :: later ∧ contentHash py u.1.2 = hash ∧
    Written u.1.1.dedup ∧
    ∀ v ∈ later, ¬ StartsOver v.1.1.dedup (contentHash py v.1.2) v.2

/-- What is written after one more turn. -/
lemma WrittenIn.concat_iff {past : List (Fetched × RedisSet)} {t : Fetched × RedisSet}
    {hash : String} : WrittenIn py (past ++ [t]) hash ↔
      (WrittenIn py past hash ∧ ¬ StartsOver t.1.1.dedup (contentHash py t.1.2) t.2) ∨
        (hash = contentHash py t.1.2 ∧ Written t.1.1.dedup) := by
  constructor
  · rintro ⟨earlier, u, later, hsplit, hhash, hwritten, hlater⟩
    rcases List.eq_nil_or_concat' later with rfl | ⟨later, v, rfl⟩
    · obtain ⟨rfl, hu⟩ := List.append_inj' hsplit rfl
      cases hu
      exact .inr ⟨hhash.symm, hwritten⟩
    · have hsplit : past ++ [t] = (earlier ++ u :: later) ++ [v] := by
        rw [hsplit, List.append_assoc]
        rfl
      obtain ⟨rfl, hv⟩ := List.append_inj' hsplit rfl
      cases hv
      refine .inl ⟨⟨earlier, u, later, rfl, hhash, hwritten, ?_⟩, ?_⟩
      · exact fun v hv => hlater v (List.mem_append_left _ hv)
      · exact hlater t (List.mem_append_right _ List.mem_cons_self)
  · rintro (⟨⟨earlier, u, later, rfl, hhash, hwritten, hlater⟩, ht⟩ | ⟨rfl, hwritten⟩)
    · refine ⟨earlier, u, later ++ [t], by simp, hhash, hwritten, ?_⟩
      intro v hv
      rcases List.mem_append.1 hv with hv | hv
      · exact hlater v hv
      · cases List.mem_singleton.1 hv
        exact ht
    · exact ⟨past, t, [], rfl, rfl, hwritten, fun v hv => nomatch hv⟩

/-- The set holds what was written to it and not lost with an expiry. -/
lemma Past.mem_iff {past : List (Fetched × RedisSet)} {s : RedisSet} (h : Past py past s)
    (hash : String) : hash ∈ s.members ↔ WrittenIn py past hash := by
  induction h with
  | nil =>
    refine iff_of_false (fun h => nomatch h) ?_
    rintro ⟨earlier, u, later, hsplit, _⟩
    cases earlier <;> cases hsplit
  | @concat past f s h ih =>
    rw [WrittenIn.concat_iff, ← ih]
    exact mem_check_iff

/-- The turns of a batch come after those before it. -/
lemma Past.turns {past : List (Fetched × RedisSet)} {s : RedisSet} (h : Past py past s)
    (batch : List Fetched) : ∀ {before t after}, ProcessorChain.turns py batch s =
      before ++ t :: after → Past py (past ++ before) t.2 := by
  induction batch generalizing past s with
  | nil =>
    intro before t after hsplit
    cases before <;> cases hsplit
  | cons f batch ih =>
    intro before t after hsplit
    unfold ProcessorChain.turns at hsplit
    cases before with
    | nil =>
      obtain ⟨rfl, _⟩ := List.cons.inj hsplit
      rw [List.append_nil]
      exact h
    | cons u before =>
      obtain ⟨rfl, hrest⟩ := List.cons.inj hsplit
      split at hrest
      · cases before <;> cases hrest
      · have hlast := ih (h.concat (f := f)) hrest
        rw [List.append_assoc] at hlast
        exact hlast

/-- And leave the set of the run. -/
lemma Past.after {past : List (Fetched × RedisSet)} (h : Past py past store.dedup) (run : Run) :
    Past py (past ++ ProcessorChain.turns py run.batch store.dedup)
      (runCollection py store run).store.dedup := by
  rw [(runCollection_isReport py store run).dedup]
  generalize store.dedup = s at h
  induction run.batch generalizing past s with
  | nil =>
    rw [show ProcessorChain.turns py [] s = [] from rfl, List.append_nil]
    exact h
  | cons f batch ih =>
    have hone : Past py (past ++ [(f, s)]) (ask py f s).2 := h.concat
    rw [execute_cons]
    unfold ProcessorChain.turns
    cases hask : (ask py f s).1 with
    | cancelled => exact hone
    | passes =>
      have hrest := ih _ hone
      rw [List.append_assoc] at hrest
      exact hrest
    | duplicate =>
      have hrest := ih _ hone
      rw [List.append_assoc] at hrest
      exact hrest

/-- The item is remembered: Redis answers its check, an item with the same title and URL was written to
the set, and the set has not expired since. -/
structure Remembered (py : Stdlib) (past : List (Fetched × RedisSet)) (t : Fetched × RedisSet) :
    Prop where
  answered : t.1.1.dedup.check = .completes
  written : WrittenIn py past (contentHash py t.1.2)
  unexpired : ¬ t.2.Expired t.1.1.dedup.checkedAt

/-- An item that is not cancelled is held back exactly if it is remembered. -/
lemma Past.remembered_iff {past : List (Fetched × RedisSet)} {t : Fetched × RedisSet}
    (h : Past py past t.2) (hcancel : (ask py t.1 t.2).1 ≠ .cancelled) :
    passes py t = false ↔ Remembered py past t := by
  have hduplicate : passes py t = false ↔ (ask py t.1 t.2).1 = .duplicate := by
    unfold passes
    cases hask : (ask py t.1 t.2).1 with
    | passes => simp
    | duplicate => simp
    | cancelled => exact absurd hask hcancel
  rw [hduplicate]
  unfold ask
  rw [check_eq_duplicate_iff, h.mem_iff]
  exact ⟨fun ⟨hanswered, hwritten, halive⟩ => ⟨hanswered, hwritten, halive⟩,
    fun hr => ⟨hr.answered, hr.written, hr.unexpired⟩⟩

/-! ## Items whose key is taken -/

/-- A row with this key is stored, or in the session after some turns of the run. -/
def Taken (py : Stdlib) (store : Store) (source : CollectedSource)
    (before : List (Fetched × RedisSet)) (key : String × String × Json × Int) : Prop :=
  (∃ row ∈ store.items, row.item.uqKey = key) ∨
    ∃ u ∈ before, ∃ row, (stored py source u).row = some row ∧ row.item.uqKey = key

/-- Every item of the run whose row would have a key that is taken is remembered. -/
def Recalls (py : Stdlib) (past : List (Fetched × RedisSet)) (store : Store) (run : Run) : Prop :=
  ∀ before t after, considered py store run = before ++ t :: after →
    ∀ key, rowKey py run.source t.1 = some key → Taken py store run.source before key →
      Remembered py (past ++ before) t

/-- `P` holds of every run of a sequence, from the turns before it and the store it finds. -/
def EachRunAfter (py : Stdlib) (P : List (Fetched × RedisSet) → Store → Run → Prop) :
    List (Fetched × RedisSet) → Store → List Run → Prop
  | _, _, [] => True
  | past, store, run :: runs => P past store run ∧
      EachRunAfter py P (past ++ turns py run.batch store.dedup) (runCollection py store run).store
        runs

/-- The items the storing loop gets to are not cancelled, and come in the order of the turns. -/
lemma considered_split {before after : List (Fetched × RedisSet)} {t : Fetched × RedisSet}
    (h : considered py store run = before ++ t :: after) :
    (ask py t.1 t.2).1 ≠ .cancelled ∧
      ∃ rest, turns py run.batch store.dedup = before ++ t :: rest := by
  unfold considered at h
  split at h
  · cases before <;> cases h
  · rename_i hnone
    obtain ⟨rest, hrest⟩ := Through.through_prefix
      (fun t => (stored py run.source t).cancelled) (turns py run.batch store.dedup)
    rw [h, List.append_assoc, List.cons_append] at hrest
    refine ⟨fun hcancel => hnone ⟨t, ?_, hcancel⟩, _, hrest.symm⟩
    rw [← hrest]
    exact List.mem_append_right _ List.mem_cons_self

/-- The row that is stored has the item's key. -/
lemma stored_uqKey_iff {t : Fetched × RedisSet} {key : String × String × Json × Int} :
    (∃ row, (stored py run.source t).row = some row ∧ row.item.uqKey = key) ↔
      passes py t = true ∧ rowKey py run.source t.1 = some key := by
  rw [rowKey_eq_some]
  constructor
  · intro ⟨row, hrow, hkey⟩
    obtain ⟨hpass, hrow⟩ := stored_row_eq_some.1 hrow
    exact ⟨hpass, row, hrow, hkey⟩
  · intro ⟨hpass, row, hrow, hkey⟩
    exact ⟨row, stored_row_eq_some.2 ⟨hpass, hrow⟩, hkey⟩

/-- The dedup set recognises the items of a run whose keys come back exactly if it remembers each whose
key is taken. -/
lemma recognised_iff_recalls {past : List (Fetched × RedisSet)} (h : Past py past store.dedup) :
    Recognised py store run ↔ Recalls py past store run := by
  constructor
  · intro hr before t after hsplit key hkey htaken
    obtain ⟨hcancel, rest, hrest⟩ := considered_split hsplit
    rw [← (h.turns _ hrest).remembered_iff hcancel]
    rcases htaken with ⟨row, hrow, rfl⟩ | ⟨u, hu, hrow⟩
    · refine hr.stored t ?_ row hrow hkey
      rw [hsplit]
      exact List.mem_append_right _ List.mem_cons_self
    · obtain ⟨hpass, hukey⟩ := stored_uqKey_iff.1 hrow
      have hbatch := hr.batch
      rw [hsplit] at hbatch
      have hpair := (List.pairwise_append.1 hbatch).2.2 u hu t List.mem_cons_self key hukey hkey
      rcases hpair with hfalse | hfalse
      · rw [hpass] at hfalse
        cases hfalse
      · exact hfalse
  · intro hr
    have hheld : ∀ {before t after}, considered py store run = before ++ t :: after →
        ∀ {key}, rowKey py run.source t.1 = some key → Taken py store run.source before key →
          passes py t = false := by
      intro before t after hsplit key hkey htaken
      obtain ⟨hcancel, rest, hrest⟩ := considered_split hsplit
      exact ((h.turns _ hrest).remembered_iff hcancel).2 (hr before t after hsplit key hkey htaken)
    constructor
    · rw [List.pairwise_iff_getElem]
      intro i j hi hj hij key hikey hjkey
      rw [or_iff_not_imp_left, Bool.not_eq_false]
      intro hpass
      have hsplit : considered py store run = (considered py store run).take j ++
          (considered py store run)[j] :: (considered py store run).drop (j + 1) := by
        rw [List.getElem_cons_drop, List.take_append_drop]
      refine hheld hsplit hjkey (.inr ⟨(considered py store run)[i], ?_, ?_⟩)
      · exact List.mem_take_iff_getElem.2 ⟨i, by omega, rfl⟩
      · exact stored_uqKey_iff.2 ⟨hpass, hikey⟩
    · intro t ht row hrow hkey
      obtain ⟨before, after, hsplit⟩ := List.append_of_mem ht
      exact hheld hsplit hkey (.inl ⟨row, hrow, rfl⟩)

/-- No run respects the key and is failed by it. -/
lemma unsunk_iff_recognised : Unsunk py store run ↔ Recognised py store run := by
  constructor
  · intro h
    exact (uqHolds_iff py store run).1 h.unique
  · intro h
    have hu := (uqHolds_iff py store run).2 h
    refine ⟨hu, ?_⟩
    intro hr
    exact (runCollection_isReport py store run).committed.2 ⟨hr, hu⟩

/-- The rows of every run of a sequence respect the unique key, and its commit is not failed by
it, exactly if in every run each item whose key is taken is remembered. -/
theorem unsunk_iff_recalls (py : Stdlib) (runs : List Run) :
    EachRun py (Unsunk py) Store.empty runs ↔ EachRunAfter py (Recalls py) [] Store.empty runs := by
  suffices ∀ {past store}, Past py past store.dedup →
      (EachRun py (Unsunk py) store runs ↔ EachRunAfter py (Recalls py) past store runs) by
    exact this .nil
  induction runs with
  | nil => exact fun _ => Iff.rfl
  | cons run runs ih =>
    intro past store h
    refine and_congr ?_ (ih (h.after run))
    rw [unsunk_iff_recognised]
    exact recognised_iff_recalls h

/-- An item stays in the feed for more than a day after the last new one: the dedup set has
expired, the row comes back, and the commit fails together with the new item. -/
theorem refetched_sinks :
    ¬ EachRun Sample.library (Unsunk Sample.library) Store.empty
      [Sample.run [(Sample.env 0 Sample.uuidA, Sample.itemA)],
       Sample.run [(Sample.env 90000 Sample.uuidB, Sample.itemA),
         (Sample.env 90000 Sample.uuidC, Sample.itemB)]] := by
  rintro ⟨-, h, -⟩
  exact absurd h.unique (by decide +kernel)

end InstantBoard.AsyncSchedulerManager
