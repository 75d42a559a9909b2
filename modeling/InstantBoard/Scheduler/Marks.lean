import InstantBoard.Scheduler.UniqueRows

/-!
# Dedup marks and stored items

An item is marked in the dedup set by the first processor and stored by the commit at the end of
the run, and nothing takes the mark back. So a hash can be in the set without a row for it
(`lostItem_not_lossless`), and the next run that fetches the item skips it. Over sequences of runs
that keep their marks (`KeepsMarks`) no such hash appears (`lossless_of_keepsMarks`). A state inside
a run is the state the run leaves when it is cancelled there, so these are all reachable states;
`marked_not_lossless` says what a run does that is cut right after a mark.
-/

namespace InstantBoard.AsyncSchedulerManager

open ProcessorChain DedupProcessor

variable (py : Stdlib)

/-- An item with this hash has been committed, or turned down by the content filter. -/
def Settled (store : Store) (hash : String) : Prop :=
  (∃ row ∈ store.items, contentHash py row.raw = hash) ∨
    ∃ raw ∈ store.rejected, contentHash py raw = hash

instance (store : Store) (hash : String) : Decidable (Settled py store hash) :=
  inferInstanceAs (Decidable (_ ∨ _))

/-- No ingest loss through deduplication. -/
def Lossless (store : Store) : Prop :=
  ∀ hash ∈ store.dedup.members, Settled py store hash

/-- Every item the run marks is settled already, is turned down by the content filter, or gives a
row in a run that commits. -/
def KeepsMarks (store : Store) (run : Run) : Prop :=
  ∀ t ∈ turns py run.batch store.dedup,
    marks t.1.1.dedup (contentHash py t.1.2) t.2 →
      Settled py store (contentHash py t.1.2) ∨
      (passes py t ∧ FilterProcessor.process py run.source (marked py t.1.2) = .ok none) ∨
      (passes py t ∧ ReachesCommit py store run ∧ Recognised py store run ∧
        (storeItem py run.source t.1 (content py run.source t.1)).row.isSome)

variable {py} {store : Store} {run : Run}

/-- An item that the content filter turns down. -/
lemma filteredOut_content {source : CollectedSource} {f : Fetched}
    (h : FilterProcessor.process py source (marked py f.2) = .ok none) :
    filteredOut (content py source f) = true := by
  simp [filteredOut, content, contentVisits, contentProcessors, contentSteps, visits,
    BaseProcessor.pure, h, Outcome.of, ProcessResult.record]

/-- What is settled stays settled. -/
lemma Settled.mono {hash : String} (h : Settled py store hash) :
    Settled py (runCollection py store run).store hash := by
  have hr := runCollection_isReport py store run
  obtain ⟨row, hrow, h⟩ | ⟨raw, hraw, h⟩ := h
  · refine Or.inl ⟨row, ?_, h⟩
    rw [hr.items]
    split
    · exact List.mem_append_left _ hrow
    · exact hrow
  · refine Or.inr ⟨raw, ?_, h⟩
    rw [hr.rejected]
    exact List.mem_append_left _ hraw

/-- A run that keeps its marks loses nothing. -/
lemma Lossless.step (h : Lossless py store) (hk : KeepsMarks py store run) :
    Lossless py (runCollection py store run).store := by
  have hr := runCollection_isReport py store run
  intro hash hmem
  rw [hr.dedup] at hmem
  obtain hmem | ⟨t, ht, hm, rfl⟩ := mem_state hmem
  · exact (h hash hmem).mono
  · obtain hs | ⟨hp, hf⟩ | ⟨hp, hc, hu, hrow⟩ := hk t ht hm
    · exact hs.mono
    · -- turned down: the item is among the results, wherever the run ends
      refine Or.inr ⟨t.1.2, ?_, rfl⟩
      rw [hr.rejected, zip_results, List.mem_append]
      right
      have hv : (ask py t.1 t.2).1 ≠ .cancelled := by
        intro hc
        simp [passes, hc] at hp
      have hres : filteredOut (result py run.source t) = true := by
        rw [result, if_pos hp]
        exact filteredOut_content hf
      exact List.mem_map.2 ⟨(t.1, result py run.source t),
        List.mem_filter.2 ⟨List.mem_map.2 ⟨t, List.mem_filter.2 ⟨ht, by simpa using hv⟩, rfl⟩, hres⟩,
        rfl⟩
    · obtain ⟨row, hrow⟩ := Option.isSome_iff_exists.1 hrow
      have hitem := mem_items_of_commits hc ((uqHolds_iff py store run).2 hu) ht
        (stored_row_eq_some.2 ⟨hp, hrow⟩)
      refine Or.inl ⟨_, hitem, ?_⟩
      show contentHash py row.raw = _
      rw [storeItem_raw hrow]

/-- An unsettled item is stored by a run that commits and whose other processors accept it. -/
lemma Lossless.refetched (h : Lossless py store) (hc : ReachesCommit py store run)
    (hu : Recognised py store run) {pre post : List Fetched} {f : Fetched} {row : Row}
    (hb : run.batch = pre ++ f :: post)
    (hfirst : ∀ g ∈ pre, contentHash py g.2 ≠ contentHash py f.2)
    (hs : ¬ Settled py store (contentHash py f.2))
    (hrow : (storeItem py run.source f (content py run.source f)).row = some row) :
    flush (row, f.1.uuid) ∈ (runCollection py store run).store.items := by
  have hx := hc.executed
  rw [hb] at hx
  obtain ⟨t, ht, rfl, hm⟩ := exists_turn hx
  rw [← hb] at ht
  have hp : passes py t = true := by
    -- the set the item finds does not hold its hash
    have hnot : contentHash py t.1.2 ∉ t.2.members := by
      intro hmem
      obtain hmem | ⟨g, hg, hmem⟩ := hm _ hmem
      · exact hs (h _ hmem)
      · exact hfirst g hg hmem.symm
    have hv : (ask py t.1 t.2).1 ≠ .duplicate := fun hd => hnot (mem_of_duplicate hd)
    have hx := hc.executed t ht
    cases hask : (ask py t.1 t.2).1 with
    | passes => simp [passes, hask]
    | duplicate => exact absurd hask hv
    | cancelled => exact absurd hask hx
  exact mem_items_of_commits hc ((uqHolds_iff py store run).2 hu) ht
    (stored_row_eq_some.2 ⟨hp, hrow⟩)

/-- After runs that keep their marks every hash in the dedup set is settled, and the next run that
commits stores an unsettled item it fetches and accepts. -/
theorem lossless_of_keepsMarks (py : Stdlib) (runs : List Run)
    (h : EachRun py (KeepsMarks py) Store.empty runs) :
    Lossless py (afterRuns py Store.empty runs) ∧
      ∀ (run : Run) (pre post : List Fetched) (f : Fetched) (row : Row),
        ReachesCommit py (afterRuns py Store.empty runs) run →
        Recognised py (afterRuns py Store.empty runs) run →
        run.batch = pre ++ f :: post →
        (∀ g ∈ pre, contentHash py g.2 ≠ contentHash py f.2) →
        ¬ Settled py (afterRuns py Store.empty runs) (contentHash py f.2) →
        (storeItem py run.source f (content py run.source f)).row = some row →
        flush (row, f.1.uuid) ∈
          (runCollection py (afterRuns py Store.empty runs) run).store.items := by
  have hl : Lossless py (afterRuns py Store.empty runs) := by
    apply EachRun.induction (P := KeepsMarks py) (I := Lossless py) _ _ h
    · intro store run hl hk
      exact hl.step hk
    · intro hash hmem
      cases hmem
  exact ⟨hl, fun run pre post f row hc hu hb hfirst hs hrow =>
    hl.refetched hc hu hb hfirst hs hrow⟩

/-- A run that stores its only item keeps its mark, and the next run stores the next item. -/
theorem oneItem_lossless :
    Lossless Sample.library (afterRuns Sample.library Store.empty
        [Sample.run [(Sample.env 0 Sample.uuidA, Sample.itemA)]]) ∧
      ∃ row, flush (row, Sample.uuidB) ∈ (runCollection Sample.library
        (afterRuns Sample.library Store.empty
          [Sample.run [(Sample.env 0 Sample.uuidA, Sample.itemA)]])
        (Sample.run [(Sample.env 300 Sample.uuidB, Sample.itemB)])).store.items := by
  have hfirst : ReachesCommit Sample.library Store.empty
      (Sample.run [(Sample.env 0 Sample.uuidA, Sample.itemA)]) :=
    ⟨by decide, by decide +kernel, by decide +kernel, rfl⟩
  have hunique : Recognised Sample.library Store.empty
      (Sample.run [(Sample.env 0 Sample.uuidA, Sample.itemA)]) :=
    (uqHolds_iff _ _ _).1 (by decide +kernel)
  have hkeeps : EachRun Sample.library (KeepsMarks Sample.library) Store.empty
      [Sample.run [(Sample.env 0 Sample.uuidA, Sample.itemA)]] := by
    refine ⟨?_, trivial⟩
    intro t ht _
    obtain rfl := List.mem_singleton.1 ht
    exact Or.inr (Or.inr ⟨by decide +kernel, hfirst, hunique, by decide +kernel⟩)
  have h := lossless_of_keepsMarks Sample.library
    [Sample.run [(Sample.env 0 Sample.uuidA, Sample.itemA)]] hkeeps
  obtain ⟨row, hrow⟩ : ∃ row, (storeItem Sample.library Sample.source
      (Sample.env 300 Sample.uuidB, Sample.itemB)
      (content Sample.library Sample.source
        (Sample.env 300 Sample.uuidB, Sample.itemB))).row = some row :=
    Option.isSome_iff_exists.1 (by decide +kernel)
  refine ⟨h.1, row, ?_⟩
  apply h.2 (Sample.run [(Sample.env 300 Sample.uuidB, Sample.itemB)]) [] []
    (Sample.env 300 Sample.uuidB, Sample.itemB) row _ _ rfl _ _ hrow
  · exact ⟨by decide, by decide +kernel, by decide +kernel, rfl⟩
  · exact (uqHolds_iff _ _ _).1 (by decide +kernel)
  · exact fun g hg => nomatch hg
  · decide +kernel

/-- A fetched item whose task is cancelled between the `SADD` and the `EXPIRE`. -/
def cutAtMark (f : Fetched) : Fetched :=
  ({ f.1 with dedup := { f.1.dedup with add := .cancelled .added } }, f.2)

/-- The chain cut at the mark of an item. -/
lemma execute_cutAtMark {source : CollectedSource} {pre : List Fetched} {f : Fetched}
    {s s' : RedisSet} (hs' : (execute (ProcessorChain.default py source) pre s).state = s')
    (hpre : (execute (ProcessorChain.default py source) pre s).cancelled = false)
    (hm : marks f.1.dedup (contentHash py f.2) s') :
    execute (ProcessorChain.default py source) (pre ++ [cutAtMark f]) s =
      ⟨(execute (ProcessorChain.default py source) pre s).results, true,
        redisSadd s' f.1.dedup.addedAt (contentHash py f.2) .added⟩ := by
  have hcheck : ask py (cutAtMark f) s' =
      (.cancelled, redisSadd s' f.1.dedup.addedAt (contentHash py f.2) .added) := by
    simp only [marks, Bool.and_eq_true, decide_eq_true_eq] at hm
    obtain ⟨⟨⟨hc, hn⟩, -⟩, -⟩ := hm
    show check { f.1.dedup with add := .cancelled .added } (contentHash py f.2) s' = _
    simp only [check, hc, if_neg hn]
  have hone : execute (ProcessorChain.default py source) [cutAtMark f] s' =
      ⟨[], true, redisSadd s' f.1.dedup.addedAt (contentHash py f.2) .added⟩ := by
    rw [execute_cons, hcheck]
    rfl
  rw [execute_append _ hpre, hs', hone, List.append_nil]

/-- A mark is in the set before anything is stored: a run that marks a new item and is cut right
there loses it. -/
theorem marked_not_lossless {pre : List Fetched} {f : Fetched}
    (hpre : (execute (ProcessorChain.default py run.source) pre store.dedup).cancelled = false)
    (hm : marks f.1.dedup (contentHash py f.2)
      (execute (ProcessorChain.default py run.source) pre store.dedup).state)
    (hfirst : ∀ g ∈ pre, contentHash py g.2 ≠ contentHash py f.2)
    (hs : ¬ Settled py store (contentHash py f.2)) :
    ¬ Lossless py (runCollection py store { run with batch := pre ++ [cutAtMark f] }).store := by
  have hr := runCollection_isReport py store { run with batch := pre ++ [cutAtMark f] }
  have hx := execute_cutAtMark rfl hpre hm
  intro hl
  have hmem : contentHash py f.2 ∈
      (runCollection py store { run with batch := pre ++ [cutAtMark f] }).store.dedup.members := by
    rw [hr.dedup, hx]
    exact List.mem_insert_self
  obtain ⟨row, hrow, hh⟩ | ⟨raw, hraw, hh⟩ := hl _ hmem
  · -- the run is cut before its commit
    have hc : (runCollection py store
        { run with batch := pre ++ [cutAtMark f] }).committed = false := by
      rw [← Bool.not_eq_true, hr.committed]
      rintro ⟨hc, -⟩
      have hcut : (execute (ProcessorChain.default py run.source) (pre ++ [cutAtMark f])
          store.dedup).cancelled = true := by rw [hx]
      obtain ⟨t, ht, hcancel⟩ := (execute_default _ _).2.1 hcut
      exact hc.executed t ht hcancel
    rw [hr.items, hc] at hrow
    exact hs (Or.inl ⟨row, hrow, hh⟩)
  · rw [hr.rejected, hx, List.mem_append] at hraw
    obtain hraw | hraw := hraw
    · exact hs (Or.inr ⟨raw, hraw, hh⟩)
    · -- what the filter turned down came before the item
      have hlen := (execute_forall₂ hpre).length_eq
      have hzip : (pre ++ [cutAtMark f]).zip
          (execute (ProcessorChain.default py run.source) pre store.dedup).results =
            pre.zip (execute (ProcessorChain.default py run.source) pre store.dedup).results := by
        rw [← List.append_nil (execute _ pre _).results, List.zip_append hlen]
        simp
      obtain ⟨d, hd, rfl⟩ := List.mem_map.1 hraw
      rw [hzip] at hd
      exact hfirst d.1 (List.of_mem_zip (List.mem_filter.1 hd).1).1 hh

/-- A run whose commit fails marks its item, and the next run, which meets no failure, skips it. -/
theorem lostItem_not_lossless :
    let failed : Run := { Sample.run [(Sample.env 0 Sample.uuidA, Sample.itemA)] with
      commit := .raises false }
    ¬ Lossless Sample.library (afterRuns Sample.library Store.empty [failed]) ∧
      (afterRuns Sample.library Store.empty
        [failed, Sample.run [(Sample.env 300 Sample.uuidB, Sample.itemA)]]).items = [] := by
  have key : let failed : Run := { Sample.run [(Sample.env 0 Sample.uuidA, Sample.itemA)] with
        commit := .raises false }
      (afterRuns Sample.library Store.empty [failed]).dedup.members =
          ["ff407de37999f0abe1f0265ded171da1"] ∧
        (afterRuns Sample.library Store.empty [failed]).items = [] ∧
        (afterRuns Sample.library Store.empty [failed]).rejected.isEmpty ∧
        (afterRuns Sample.library Store.empty
          [failed, Sample.run [(Sample.env 300 Sample.uuidB, Sample.itemA)]]).items = [] := by
    decide +kernel
  obtain ⟨hmem, hitems, hrejected, hnext⟩ := key
  refine ⟨?_, hnext⟩
  intro h
  obtain ⟨row, hrow, -⟩ | ⟨raw, hraw, -⟩ := h _ (by rw [hmem]; exact List.mem_singleton.2 rfl)
  · rw [hitems] at hrow
    cases hrow
  · rw [List.isEmpty_iff.1 hrejected] at hraw
    cases hraw

end InstantBoard.AsyncSchedulerManager
