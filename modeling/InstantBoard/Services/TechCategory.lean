import InstantBoard.Lib.Fallible
import InstantBoard.Scheduler.Collection
import InstantBoard.Services.CategoryWrites

/-!
# The category of the tech feed

`_get_tech_category` asks for the one active category of type `tech`, whoever owns it. On the tables
that the category service makes of the seeded ones, the feed of a tenant finds the predefined category
exactly when no other active category has that type (`techFeed_safe_iff`); one such category of any
tenant makes it raise for all of them.
-/

namespace InstantBoard.CategoryService

open Fallible Query Transition

/-! ## The lookup -/

/-- The `WHERE` of the first query. -/
def techRow (tenantId : String) (c : CategoryRow) : Bool :=
  ((c.tenantId = tenantId ∧ c.slug = "tech") ∨ c.type = "tech") ∧ c.isActive = true

/-- `_get_tech_category`; the third query has a `LIMIT 1` and no order. -/
def GetTechCategory (db : CategoryTables) (tenantId : String)
    (result : Except DbError (Option CategoryRow)) : Prop :=
  match scalarOneOrNone (db.categories.filter (techRow tenantId)) with
  | .error e => result = .error e
  | .ok (some category) => result = .ok (some category)
  | .ok none =>
    match scalarOneOrNone (db.categories.filter fun c => c.slug = "tech" ∧ c.isActive = true) with
    | .error e => result = .error e
    | .ok (some category) => result = .ok (some category)
    | .ok none =>
      (∃ c ∈ db.categories.filter fun c => c.type = "tech" ∧ c.isActive = true,
        result = .ok (some c)) ∨
      (db.categories.filter fun c => c.type = "tech" ∧ c.isActive = true) = [] ∧ result = .ok none

/-! ## Seeded tables and what is made of them -/

def financeCategory (id : String) (now : Int) : CategoryRow where
  id
  tenantId := SYSTEM_TENANT_ID
  slug := "finance"
  type := "finance"
  refreshIntervalSeconds := 30
  keywordsFilter := ["股票", "基金", "行情", "指数", "A股", "期货", "大宗商品"]
  name := "财经"
  description := some "金融市场行情数据"
  icon := some "chart-line"
  color := some "#FF6B6B"
  prioritySort := false
  isActive := true
  createdAt := now
  updatedAt := now

def techCategory (id : String) (now : Int) : CategoryRow where
  id
  tenantId := SYSTEM_TENANT_ID
  slug := "tech"
  type := "tech"
  refreshIntervalSeconds := 300
  keywordsFilter := ["AI", "机器人", "嵌入式", "太空", "RISC-V", "FPGA", "LLM"]
  name := "科技"
  description := some "科技领域新闻资讯：AI、机器人、嵌入式、太空"
  icon := some "cpu"
  color := some "#3B82F6"
  prioritySort := false
  isActive := true
  createdAt := now
  updatedAt := now

/-- The categories are those of `seed_default_data`. -/
def CategoryTables.Seeded (db : CategoryTables) : Prop :=
  ∃ financeId techId now now', financeId ≠ techId ∧
    db.categories = [financeCategory financeId now, techCategory techId now']

inductive WriteLabel where
  | create (data : CategoryBody) (tenantId id : String) (now : Int)
  | update (categoryId : String) (data : CategoryUpdate) (tenantId : String) (now : Int)
  | delete (categoryId tenantId : String)
  /-- whatever happens to the other tables -/
  | others (tenants : List TenantRow) (sources : List SourceRow) (items : List ItemRow)

/-- What a request makes of the tables. -/
def CategoryTables.write (py : Stdlib) (isalnum : Char → Bool) (db : CategoryTables) :
    WriteLabel → Except WriteError CategoryTables
  | .create data tenantId id now => (create py isalnum db now data tenantId id).map Prod.snd
  | .update categoryId data tenantId now =>
    (updateCategory db now categoryId data tenantId).map Prod.snd
  | .delete categoryId tenantId => deleteCategory db categoryId tenantId
  | .others tenants sources items => .ok { db with tenants, sources, items }

/-- A request commits its tables, or is rolled back. -/
def CategoryTables.next (py : Stdlib) (isalnum : Char → Bool) (db : CategoryTables)
    (l : WriteLabel) : CategoryTables :=
  match db.write py isalnum l with
  | .ok db' => db'
  | .error _ => db

def WriteStep (py : Stdlib) (isalnum : Char → Bool) (db : CategoryTables) (l : WriteLabel)
    (db' : CategoryTables) : Prop :=
  db' = db.next py isalnum l

/-- What a request does to the categories. -/
inductive Effect (db : CategoryTables) : WriteLabel → List CategoryRow → Prop where
  | kept {l} : Effect db l db.categories
  | created {data tenantId id now c} : c.type = data.type → c.isActive = data.isActive →
      (∀ r ∈ db.categories, r.id ≠ c.id) →
      (∀ r ∈ db.categories, r.tenantId = SYSTEM_TENANT_ID → r.slug ≠ c.slug) →
      Effect db (.create data tenantId id now) (db.categories ++ [c])
  | updated {categoryId data tenantId now c c'} : c ∈ db.categories → c.id = categoryId →
      c.tenantId ≠ SYSTEM_TENANT_ID → c'.id = c.id → c'.type = data.type.getD c.type →
      c'.isActive = data.isActive.getD c.isActive →
      (c'.slug = c.slug ∨ c'.slug = "" ∨ ∀ r ∈ db.categories, r.id ≠ c.id →
        r.tenantId = SYSTEM_TENANT_ID → r.slug ≠ c'.slug) →
      Effect db (.update categoryId data tenantId now) (Table.replace (·.id) c' db.categories)
  | deleted {categoryId tenantId c} : c ∈ db.categories → c.id = categoryId →
      c.tenantId ≠ SYSTEM_TENANT_ID →
      Effect db (.delete categoryId tenantId) (db.categories.filter (·.id ≠ categoryId))

/-! ### One request -/

/-- What a created category has. -/
lemma createCategory_added {py : Stdlib} {isalnum : Char → Bool} {db db' : Tables} {max : Nat}
    {data : CategoryCreate} {tenantId id : String} {c : Category}
    (h : createCategory py isalnum db max data tenantId id = .ok (db', c)) :
    c.id = id ∧ c.tenantId = tenantId ∧ c.slug = data.effectiveSlug py isalnum ∧ c.type = data.type ∧
      ∀ r ∈ db.categories, ¬ ((r.tenantId = tenantId ∨ r.tenantId = SYSTEM_TENANT_ID) ∧
        r.slug = c.slug) := by
  unfold createCategory at h
  split at h
  · cases h
  · dsimp only at h
    split at h
    · cases h
    · split at h
      · rename_i hnone
        cases h
        refine ⟨rfl, rfl, rfl, rfl, ?_⟩
        intro r hr hclash
        apply List.filter_eq_nil_iff.1 hnone r hr
        simpa using hclash
      · cases h
      · cases h

/-- What a creation changes. -/
lemma create_effect {py : Stdlib} {isalnum : Char → Bool} {db db' : CategoryTables} {now : Int}
    {data : CategoryBody} {tenantId id : String} {response : CategoryResponse}
    (h : create py isalnum db now data tenantId id = .ok (response, db')) :
    Effect db (.create data tenantId id now) db'.categories := by
  obtain ⟨⟨tables, category⟩, hcreate, h⟩ := bind_eq_ok.1 h
  obtain ⟨db'', hinsert, h⟩ := bind_eq_ok.1 h
  cases h
  obtain ⟨hid, _, _, htype, hfree⟩ := createCategory_added (mapError_eq_ok.1 hcreate)
  obtain ⟨_, ⟨_, _, hnew, _⟩, rfl⟩ := flush_eq_ok.1 (mapError_eq_ok.1 hinsert)
  refine .created htype rfl hnew ?_
  intro r hr hsys hslug
  exact hfree r.toCategory (List.mem_map_of_mem hr) ⟨.inr hsys, hslug⟩

/-- A category that may be changed is the tenant's own. -/
lemma findOwn_ok {db : CategoryTables} {categoryId tenantId verb : String} {c : CategoryRow}
    (h : findOwn db categoryId tenantId verb = .ok c) :
    c ∈ db.categories ∧ c.id = categoryId ∧ c.tenantId ≠ SYSTEM_TENANT_ID ∧
      c.tenantId = tenantId := by
  unfold findOwn at h
  split at h
  · cases h
  · cases h
  · rename_i c' hone
    split at h
    · cases h
    · rename_i hsys
      split at h
      · cases h
      · rename_i htenant
        cases h
        have hmem : c ∈ db.categories.filter (·.id = categoryId) := by
          rw [scalarOneOrNone_eq_some hone]
          exact List.mem_singleton.2 rfl
        obtain ⟨hc, hid⟩ := List.mem_filter.1 hmem
        exact ⟨hc, of_decide_eq_true hid, hsys, Decidable.not_not.1 htenant⟩

/-- A slug that passes the check is empty or meets no other row. -/
lemma checkSlug_free {db : CategoryTables} {categoryId tenantId s : String}
    (h : checkSlug db categoryId tenantId (some s) = .ok ()) :
    s = "" ∨ ∀ r ∈ db.categories, r.id ≠ categoryId → clashes tenantId s r = false := by
  by_cases hs : s = ""
  · exact .inl hs
  · right
    unfold checkSlug at h
    rw [Option.filter_some_pos (by simpa using hs)] at h
    dsimp only at h
    split at h
    · cases h
    · rename_i hnone
      intro r hr hid
      cases hclash : clashes tenantId s r with
      | false => rfl
      | true =>
        exact absurd (by simp [hclash, hid])
          (List.filter_eq_nil_iff.1 (scalarOneOrNone_eq_none hnone) r hr)
    · cases h

/-- The columns that a touched row has of its update. -/
lemma touch_columns (c old : CategoryRow) (now : Int) :
    (c.touch old now).toCategory = c.toCategory ∧ (c.touch old now).isActive = c.isActive := by
  unfold CategoryRow.touch
  split
  · exact ⟨rfl, rfl⟩
  · exact ⟨rfl, rfl⟩

/-- What an update changes. -/
lemma update_effect {db db' : CategoryTables} {now : Int} {categoryId : String}
    {data : CategoryUpdate} {tenantId : String} {response : CategoryResponse}
    (h : updateCategory db now categoryId data tenantId = .ok (response, db')) :
    Effect db (.update categoryId data tenantId now) db'.categories := by
  obtain ⟨c, hfind, h⟩ := bind_eq_ok.1 h
  obtain ⟨_, hslug, h⟩ := bind_eq_ok.1 h
  obtain ⟨db'', hupdate, h⟩ := bind_eq_ok.1 h
  cases h
  obtain ⟨hc, hid, hsys, _⟩ := findOwn_ok hfind
  obtain ⟨_, _, rfl⟩ := flush_eq_ok.1 (mapError_eq_ok.1 hupdate)
  obtain ⟨hcols, hactive⟩ := touch_columns (data.apply c) c now
  refine .updated hc hid hsys ((congrArg Category.id hcols).trans rfl)
    ((congrArg Category.type hcols).trans rfl) (hactive.trans rfl) ?_
  have hs : ((data.apply c).touch c now).slug = data.slug.getD c.slug :=
    (congrArg Category.slug hcols).trans rfl
  rw [hs]
  cases hdata : data.slug with
  | none => exact .inl rfl
  | some s =>
    right
    rw [hid]
    rw [hdata] at hslug
    rcases checkSlug_free hslug with hempty | hfree
    · exact .inl hempty
    · right
      intro r hr hne hsys hs
      exact of_decide_eq_false (hfree r hr hne) ⟨.inr hsys, hs⟩

/-- What a deletion changes. -/
lemma delete_effect {db db' : CategoryTables} {categoryId tenantId : String}
    (h : deleteCategory db categoryId tenantId = .ok db') :
    Effect db (.delete categoryId tenantId) db'.categories := by
  obtain ⟨c, hfind, h⟩ := bind_eq_ok.1 h
  obtain ⟨hc, hid, hsys, _⟩ := findOwn_ok hfind
  split at h
  · cases h
  · cases h
    exact .deleted hc hid hsys

/-- Every request has one of the effects. -/
lemma WriteStep.effect {py : Stdlib} {isalnum : Char → Bool} {db db' : CategoryTables}
    {l : WriteLabel} (hst : WriteStep py isalnum db l db') : Effect db l db'.categories := by
  rw [hst]
  unfold CategoryTables.next
  split
  · rename_i db'' h
    cases l with
    | create data tenantId id now =>
      obtain ⟨⟨response, _⟩, hcreate, rfl⟩ := map_eq_ok.1 h
      exact create_effect hcreate
    | update categoryId data tenantId now =>
      obtain ⟨⟨response, _⟩, hupdate, rfl⟩ := map_eq_ok.1 h
      exact update_effect hupdate
    | delete categoryId tenantId => exact delete_effect h
    | others tenants sources items =>
      cases h
      exact .kept
  · exact .kept

/-! ### The predefined category -/

/-- The predefined category is there as it was seeded, and is the only one with its slug. -/
structure Predefined (tech : CategoryRow) (db : CategoryTables) : Prop where
  keyed : Table.Unique (fun c : CategoryRow => c.id) db.categories
  mem : tech ∈ db.categories
  only : ∀ c ∈ db.categories, c.slug = "tech" → c = tech

/-- No request touches the predefined category, nor gives another one its slug. -/
lemma WriteStep.predefined {py : Stdlib} {isalnum : Char → Bool} {tech : CategoryRow}
    (hsys : tech.tenantId = SYSTEM_TENANT_ID) (hslug : tech.slug = "tech")
    {db db' : CategoryTables} {l : WriteLabel} (h : Predefined tech db)
    (hst : WriteStep py isalnum db l db') : Predefined tech db' := by
  have heffect := hst.effect
  generalize hrows : db'.categories = rows at heffect
  suffices Table.Unique (fun c : CategoryRow => c.id) rows ∧ tech ∈ rows ∧
      ∀ c ∈ rows, c.slug = "tech" → c = tech by
    obtain ⟨hkeyed, hmem, honly⟩ := this
    subst hrows
    exact ⟨hkeyed, hmem, honly⟩
  cases heffect with
  | kept => exact ⟨h.keyed, h.mem, h.only⟩
  | @created data tenantId id now c _ _ hnew hfree =>
    refine ⟨h.keyed.append hnew, List.mem_append_left _ h.mem, ?_⟩
    intro c' hc' htech
    rcases List.mem_append.1 hc' with hc' | hc'
    · exact h.only c' hc' htech
    · rw [List.mem_singleton.1 hc'] at htech
      exact absurd (hslug.trans htech.symm) (hfree tech h.mem hsys)
  | @updated categoryId data tenantId now c c' hc _ hc_sys hid _ _ hc'_slug =>
    -- the row that is written is not the predefined one
    have hne : tech.id ≠ c.id := by
      intro heq
      have := h.keyed.eq_of_mem h.mem hc heq
      subst this
      exact hc_sys hsys
    refine ⟨h.keyed.replace_id c', ?_, ?_⟩
    · rw [← hid] at hne
      exact Table.mem_replace.2 (.inr ⟨h.mem, hne⟩)
    · intro r hr htech
      rcases Table.mem_replace.1 hr with ⟨rfl, _⟩ | ⟨hr, _⟩
      · exfalso
        rcases hc'_slug with heq | heq | hfree
        · have := h.only c hc (heq.symm.trans htech)
          subst this
          exact hne rfl
        · rw [heq] at htech
          exact absurd htech (by decide)
        · exact hfree tech h.mem hne hsys (hslug.trans htech.symm)
      · exact h.only r hr htech
  | @deleted categoryId tenantId c hc hid hc_sys =>
    refine ⟨?_, ?_, ?_⟩
    · exact h.keyed.sublist (List.filter_sublist.map _)
    · apply List.mem_filter.2
      refine ⟨h.mem, decide_eq_true ?_⟩
      intro heq
      have := h.keyed.eq_of_mem h.mem hc (heq.trans hid.symm)
      subst this
      exact hc_sys hsys
    · intro r hr
      exact h.only r (List.mem_filter.1 hr).1

/-- The tables that requests make of the seeded ones have the predefined category. -/
lemma predefined_of_run {py : Stdlib} {isalnum : Char → Bool} {db₀ db : CategoryTables}
    {ls : List WriteLabel} (hseed : db₀.Seeded)
    (run : Steps (WriteStep py isalnum) db₀ ls db) :
    ∃ techId now, Predefined (techCategory techId now) db := by
  obtain ⟨financeId, techId, now, now', hne, hrows⟩ := hseed
  refine ⟨techId, now', ?_⟩
  have hseeded : Predefined (techCategory techId now') db₀ := by
    refine ⟨?_, ?_, ?_⟩
    · rw [hrows]
      show [financeId, techId].Nodup
      simpa using hne
    · rw [hrows]
      exact .tail _ (.head _)
    · rw [hrows]
      intro c hc hslug
      rcases List.mem_cons.1 hc with rfl | hc
      · exact absurd hslug (by simp [financeCategory])
      · exact List.mem_singleton.1 hc
  exact run.invariant (fun h hst => hst.predefined rfl rfl h) hseeded

/-! ## The feed of a tenant -/

/-- The lookup does not raise, and finds nothing but a category of the tenant or of the system. -/
def TechFeedSafe (db : CategoryTables) (tenantId : String) : Prop :=
  ∀ result, GetTechCategory db tenantId result → ∃ found, result = .ok found ∧
    ∀ c, found = some c → c.tenantId = tenantId ∨ c.tenantId = SYSTEM_TENANT_ID

/-- The tenant and the system have the same categories in both. -/
def SameFor (tenantId : String) (db db' : CategoryTables) : Prop :=
  ∀ c : CategoryRow, c.tenantId = tenantId ∨ c.tenantId = SYSTEM_TENANT_ID →
    (c ∈ db.categories ↔ c ∈ db'.categories)

/-- The predefined category is the only active one of type `tech`. -/
def Unshadowed (db : CategoryTables) : Prop :=
  ∀ c ∈ db.categories, c.type = "tech" → c.isActive = true →
    c.tenantId = SYSTEM_TENANT_ID ∧ c.slug = "tech"

/-- With the predefined category there, the first query decides: it finds that one, or raises on
another category of the type. -/
lemma Predefined.getTechCategory {db : CategoryTables} {techId : String} {now : Int}
    (h : Predefined (techCategory techId now) db) (tenantId : String) :
    Unshadowed db ∧ (∀ result, GetTechCategory db tenantId result ↔
        result = .ok (some (techCategory techId now))) ∨
      ¬ Unshadowed db ∧ (∀ result, GetTechCategory db tenantId result ↔
        result = .error .multipleResultsFound) := by
  have hrow : ∀ c, c ∈ db.categories.filter (techRow tenantId) ↔
      c ∈ db.categories ∧ c.type = "tech" ∧ c.isActive = true := by
    intro c
    rw [List.mem_filter]
    apply and_congr_right
    intro hc
    simp only [techRow, Bool.decide_and, Bool.and_eq_true, decide_eq_true_eq]
    constructor
    · rintro ⟨⟨_, hslug⟩ | htype, hactive⟩
      · rw [h.only c hc hslug]
        exact ⟨rfl, rfl⟩
      · exact ⟨htype, hactive⟩
    · rintro ⟨htype, hactive⟩
      exact ⟨.inr htype, hactive⟩
  have hmem := (hrow (techCategory techId now)).2 ⟨h.mem, rfl, rfl⟩
  unfold GetTechCategory
  cases hlookup : scalarOneOrNone (db.categories.filter (techRow tenantId)) with
  | error e =>
    right
    refine ⟨?_, ?_⟩
    · -- two rows of the type are not both the predefined one
      intro hall
      have hid : ∀ c ∈ db.categories, techRow tenantId c = true → c.id = techId := by
        intro c hc hp
        obtain ⟨_, htype, hactive⟩ := (hrow c).1 (List.mem_filter.2 ⟨hc, hp⟩)
        rw [h.only c hc (hall c hc htype hactive).2]
        rfl
      rcases h.keyed.scalarOneOrNone hid with ⟨_, _, _, heq⟩ | ⟨_, heq⟩
      · rw [scalarOneOrNone_ok heq] at hlookup
        cases hlookup
      · rw [scalarOneOrNone_ok heq] at hlookup
        cases hlookup
    · rw [scalarOneOrNone_eq_error hlookup]
      exact fun _ => Iff.rfl
  | ok found =>
    cases found with
    | none =>
      rw [scalarOneOrNone_eq_none hlookup] at hmem
      exact absurd hmem List.not_mem_nil
    | some c =>
      rw [scalarOneOrNone_eq_some hlookup] at hmem hrow
      have := List.mem_singleton.1 hmem
      subst this
      left
      refine ⟨?_, fun _ => Iff.rfl⟩
      intro c' hc' htype hactive
      have := List.mem_singleton.1 ((hrow c').2 ⟨hc', htype, hactive⟩)
      subst this
      exact ⟨rfl, rfl⟩

/-- The feed is safe exactly when nothing shadows the predefined category. -/
lemma Predefined.safe_iff {db : CategoryTables} {techId : String} {now : Int}
    (h : Predefined (techCategory techId now) db) (tenantId : String) :
    TechFeedSafe db tenantId ↔ Unshadowed db := by
  rcases h.getTechCategory tenantId with ⟨hun, hget⟩ | ⟨hsh, hget⟩
  · apply iff_of_true ?_ hun
    intro result hresult
    refine ⟨_, (hget result).1 hresult, ?_⟩
    intro c hc
    cases hc
    exact .inr rfl
  · apply iff_of_false ?_ hsh
    intro hsafe
    obtain ⟨found, hfound, _⟩ := hsafe _ ((hget _).2 rfl)
    cases hfound

/-! ### Runs that do not shadow it -/

/-- The request leaves no active category of type `tech` behind. -/
def Harmless (db : CategoryTables) : WriteLabel → Prop
  | .create data _ _ _ => data.type = "tech" → data.isActive = false
  | .update categoryId data _ _ => ∀ c ∈ db.categories, c.id = categoryId →
      data.type.getD c.type = "tech" → data.isActive.getD c.isActive = false
  | .delete _ _ | .others _ _ _ => True

/-- A harmless write shadows nothing. -/
lemma WriteStep.unshadowed {py : Stdlib} {isalnum : Char → Bool} {db db' : CategoryTables}
    {l : WriteLabel} (hl : Harmless db l) (h : Unshadowed db)
    (hst : WriteStep py isalnum db l db') : Unshadowed db' := by
  have heffect := hst.effect
  unfold Unshadowed
  generalize db'.categories = rows at heffect
  cases heffect with
  | kept => exact h
  | @created data tenantId id now c htype hactive _ _ =>
    intro r hr htech hon
    rcases List.mem_append.1 hr with hr | hr
    · exact h r hr htech hon
    · rw [List.mem_singleton.1 hr] at htech hon
      rw [hactive, hl (htype.symm.trans htech)] at hon
      cases hon
  | @updated categoryId data tenantId now c c' hc hid _ _ htype hactive _ =>
    intro r hr htech hon
    rcases Table.mem_replace.1 hr with ⟨rfl, _⟩ | ⟨hr, _⟩
    · rw [hactive, hl c hc hid (htype.symm.trans htech)] at hon
      cases hon
    · exact h r hr htech hon
  | @deleted categoryId tenantId c _ _ _ =>
    intro r hr
    exact h r (List.mem_filter.1 hr).1

/-- The seed categories are not shadowed. -/
lemma unshadowed_of_seeded {db : CategoryTables} (h : db.Seeded) : Unshadowed db := by
  obtain ⟨financeId, techId, now, now', _, hrows⟩ := h
  intro c hc htype _
  rw [hrows] at hc
  rcases List.mem_cons.1 hc with rfl | hc
  · exact absurd htype (by simp [financeCategory])
  · rw [List.mem_singleton.1 hc]
    exact ⟨rfl, rfl⟩

namespace Sample

def seeded : CategoryTables where
  tenants := [{ id := "b", maxSources := 50, maxCategories := 10, settings := [] }]
  categories := [financeCategory "c1" 0, techCategory "c2" 0]
  sources := []
  items := []

/-- The sample is seeded. -/
lemma seeded_seeded : seeded.Seeded :=
  ⟨"c1", "c2", 0, 0, by decide, rfl⟩

/-- A category of type `tech` of the tenant `b`. -/
def gadgets : CategoryBody where
  name := "Gadgets"
  slug := some "gadgets"
  type := "tech"
  refreshIntervalSeconds := 300
  keywordsFilter := none
  description := none
  icon := none
  color := none
  isActive := true

def gadgetsRow : CategoryRow :=
  gadgets.row
    { id := "c3", tenantId := "b", slug := "gadgets", type := "tech", refreshIntervalSeconds := 300,
      keywordsFilter := [] } 1

def shadowed : CategoryTables :=
  seeded.next AsyncSchedulerManager.Sample.library Char.isAlphanum (.create gadgets "b" "c3" 1)

/-- The sample with a shadowed category. -/
lemma shadowed_categories : shadowed.categories =
    [financeCategory "c1" 0, techCategory "c2" 0, gadgetsRow] := by
  decide +kernel

/-- The tenant `a` has the same categories in both. -/
lemma sameFor : SameFor "a" shadowed seeded := by
  intro c hc
  rw [shadowed_categories]
  show c ∈ seeded.categories ++ [gadgetsRow] ↔ _
  rw [List.mem_append, List.mem_singleton]
  apply or_iff_left
  rintro rfl
  rcases hc with h | h
  · exact absurd h (by decide)
  · exact absurd h (by decide)

end Sample

/-- On any two tables that runs make of seeded ones and that agree on the categories of a tenant and
of the system, the tenant's feed is safe in both and finds the same exactly when neither has another
active category of type `tech`; and this is so of every run whose requests leave none. -/
theorem techFeed_safe_iff {py : Stdlib} {isalnum : Char → Bool} {db₀ db₀' db db' : CategoryTables}
    {ls ls' : List WriteLabel} (hseed : db₀.Seeded) (hseed' : db₀'.Seeded)
    (run : Steps (WriteStep py isalnum) db₀ ls db)
    (run' : Steps (WriteStep py isalnum) db₀' ls' db') {tenantId : String}
    (hsame : SameFor tenantId db db') :
    (TechFeedSafe db tenantId ∧ TechFeedSafe db' tenantId ∧
        (∀ result, GetTechCategory db tenantId result ↔ GetTechCategory db' tenantId result) ↔
      Unshadowed db ∧ Unshadowed db') ∧
    (Guarded (WriteStep py isalnum) Harmless db₀ ls db → Unshadowed db) := by
  obtain ⟨techId, now, hpre⟩ := predefined_of_run hseed run
  obtain ⟨techId', now', hpre'⟩ := predefined_of_run hseed' run'
  constructor
  · rw [hpre.safe_iff, hpre'.safe_iff]
    constructor
    · exact fun h => ⟨h.1, h.2.1⟩
    · rintro ⟨hun, hun'⟩
      refine ⟨hun, hun', ?_⟩
      -- the predefined category is the system's, so it is the same row
      have htech := hpre'.only _ ((hsame _ (.inr rfl)).1 hpre.mem) rfl
      rcases hpre.getTechCategory tenantId with ⟨_, hget⟩ | ⟨hsh, _⟩
      · rcases hpre'.getTechCategory tenantId with ⟨_, hget'⟩ | ⟨hsh, _⟩
        · intro result
          rw [hget, hget', htech]
        · exact absurd hun' hsh
      · exact absurd hun hsh
  · intro guarded
    exact guarded.invariant (fun hc h hst => hst.unshadowed hc h) (unshadowed_of_seeded hseed)

open Sample in
/-- The feed of the tenant `a` before and after `b` creates its category. -/
theorem techFeed_safe_iff_gadgets :
    (TechFeedSafe shadowed "a" ∧ TechFeedSafe seeded "a" ∧
        (∀ result, GetTechCategory shadowed "a" result ↔ GetTechCategory seeded "a" result) ↔
      Unshadowed shadowed ∧ Unshadowed seeded) ∧
    (Guarded (WriteStep AsyncSchedulerManager.Sample.library Char.isAlphanum) Harmless seeded
      [.create gadgets "b" "c3" 1] shadowed → Unshadowed shadowed) :=
  techFeed_safe_iff seeded_seeded seeded_seeded (.single rfl) .nil sameFor

open Sample in
/-- The feed of the tenant `a` raises once `b` has created its category. -/
theorem techFeed_broken_by_other : ¬ ∀ (py : Stdlib) (isalnum : Char → Bool)
    (db₀ db : CategoryTables) (ls : List WriteLabel) (tenantId : String), db₀.Seeded →
      Steps (WriteStep py isalnum) db₀ ls db → TechFeedSafe db tenantId := by
  intro h
  have run : Steps (WriteStep AsyncSchedulerManager.Sample.library Char.isAlphanum) seeded
      [.create gadgets "b" "c3" 1] shadowed := .single rfl
  obtain ⟨techId, now, hpre⟩ := predefined_of_run seeded_seeded run
  have hun := (hpre.safe_iff "a").1 (h _ _ _ _ _ "a" seeded_seeded run)
  have hmem : gadgetsRow ∈ shadowed.categories := by
    rw [shadowed_categories]
    exact .tail _ (.tail _ (.head _))
  exact absurd (hun gadgetsRow hmem rfl rfl).1 (by decide)

end InstantBoard.CategoryService
