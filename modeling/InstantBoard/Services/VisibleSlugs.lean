import InstantBoard.Services.TechCategory

/-!
# The slugs a tenant sees

A tenant sees its own categories and those of the system tenant, and everything that is keyed by a slug
(overrides, channels, the tech feed) supposes that no two of them have the same one. Each write checks
this from the side of its own tenant. It fails on an empty slug, which no write refuses, and on a new
category of the system tenant, whose slug another tenant may have taken before.

`unambiguous_iff_careful`: slugs stay unambiguous along a run exactly as long as no write does one of
these, or makes a second active category of type `tech`.
-/

namespace InstantBoard.CategoryService

open Fallible Query Transition

/-- The categories a tenant sees. -/
def visible (db : CategoryTables) (tenantId : String) : List CategoryRow :=
  db.categories.filter fun c => c.tenantId = tenantId ∨ c.tenantId = SYSTEM_TENANT_ID

/-- The slugs that each tenant sees are distinct and not empty. -/
structure DistinctSlugs (db : CategoryTables) : Prop where
  distinct : ∀ tenantId, ((visible db tenantId).map (·.slug)).Nodup
  nonempty : ∀ tenantId, ∀ c ∈ visible db tenantId, c.slug ≠ ""

/-- A slug stands for one category: the duplicate lookups of the writes and the lookup of the tech
category find at most one row. -/
structure Unambiguous (db : CategoryTables) : Prop extends DistinctSlugs db where
  createLookup : ∀ tenantId slug, ∃ found,
    scalarOneOrNone (db.categories.filter (clashes tenantId slug)) = .ok found
  updateLookup : ∀ tenantId slug categoryId, ∃ found, scalarOneOrNone
    (db.categories.filter fun c => clashes tenantId slug c && c.id ≠ categoryId) = .ok found
  techLookup : ∀ tenantId result, GetTechCategory db tenantId result → ∃ found, result = .ok found

/-- The request keeps the slugs apart: a new category has a slug, which, when it is the system
tenant's, nobody has; an update does not take the slug away; and neither leaves another active category
of type `tech`. -/
def Careful (py : Stdlib) (isalnum : Char → Bool) (db : CategoryTables) : WriteLabel → Prop
  | .create data tenantId _ _ =>
    data.effectiveSlug py isalnum ≠ "" ∧
    (tenantId = SYSTEM_TENANT_ID → ∀ c ∈ db.categories, c.slug ≠ data.effectiveSlug py isalnum) ∧
    (data.type = "tech" → data.isActive = false)
  | .update categoryId data _ _ =>
    data.slug ≠ some "" ∧
    ∀ c ∈ db.categories, c.id = categoryId →
      data.type.getD c.type = "tech" → data.isActive.getD c.isActive = false
  | .delete _ _ | .others _ _ _ => True

/-! ## What a write that succeeds leaves -/

/-- The row that a `create` adds. -/
structure Added (py : Stdlib) (isalnum : Char → Bool) (db : CategoryTables) (data : CategoryBody)
    (tenantId : String) (c : CategoryRow) : Prop where
  tenant : c.tenantId = tenantId
  slug : c.slug = data.effectiveSlug py isalnum
  type : c.type = data.type
  active : c.isActive = data.isActive
  fresh : ∀ r ∈ db.categories, r.id ≠ c.id
  free : ∀ r ∈ db.categories, clashes tenantId c.slug r = false

/-- What a creation adds. -/
lemma create_added {py : Stdlib} {isalnum : Char → Bool} {db db' : CategoryTables} {now : Int}
    {data : CategoryBody} {tenantId id : String}
    (h : db.write py isalnum (.create data tenantId id now) = .ok db') :
    ∃ c, db'.categories = db.categories ++ [c] ∧ Added py isalnum db data tenantId c := by
  obtain ⟨⟨response, _⟩, hcreate, rfl⟩ := map_eq_ok.1 h
  obtain ⟨⟨tables, category⟩, hcategory, hcreate⟩ := bind_eq_ok.1 hcreate
  obtain ⟨db'', hinsert, hcreate⟩ := bind_eq_ok.1 hcreate
  cases hcreate
  obtain ⟨_, htenant, hslug, htype, hfree⟩ := createCategory_added (mapError_eq_ok.1 hcategory)
  obtain ⟨_, ⟨_, _, hnew, _⟩, rfl⟩ := flush_eq_ok.1 (mapError_eq_ok.1 hinsert)
  refine ⟨_, rfl, htenant, hslug, htype, rfl, hnew, ?_⟩
  intro r hr
  exact decide_eq_false (hfree r.toCategory (List.mem_map_of_mem hr))

/-- The row that an `update` writes. -/
structure Rewritten (db : CategoryTables) (data : CategoryUpdate) (c c' : CategoryRow) : Prop where
  mem : c ∈ db.categories
  owned : c.tenantId ≠ SYSTEM_TENANT_ID
  id : c'.id = c.id
  tenant : c'.tenantId = c.tenantId
  slug : c'.slug = data.slug.getD c.slug
  type : c'.type = data.type.getD c.type
  active : c'.isActive = data.isActive.getD c.isActive
  free : c'.slug = c.slug ∨ c'.slug = "" ∨
    ∀ r ∈ db.categories, r.id ≠ c.id → clashes c.tenantId c'.slug r = false

/-- What an update rewrites. -/
lemma update_rewritten {py : Stdlib} {isalnum : Char → Bool} {db db' : CategoryTables} {now : Int}
    {categoryId tenantId : String} {data : CategoryUpdate}
    (h : db.write py isalnum (.update categoryId data tenantId now) = .ok db') :
    ∃ c c', c.id = categoryId ∧ db'.categories = Table.replace (·.id) c' db.categories ∧
      Rewritten db data c c' := by
  obtain ⟨⟨response, _⟩, hupdate, rfl⟩ := map_eq_ok.1 h
  obtain ⟨c, hfind, hupdate⟩ := bind_eq_ok.1 hupdate
  obtain ⟨_, hslug, hupdate⟩ := bind_eq_ok.1 hupdate
  obtain ⟨db'', hwrite, hupdate⟩ := bind_eq_ok.1 hupdate
  cases hupdate
  obtain ⟨hc, hid, hsys, htenant⟩ := findOwn_ok hfind
  obtain ⟨_, _, rfl⟩ := flush_eq_ok.1 (mapError_eq_ok.1 hwrite)
  obtain ⟨hcols, hactive⟩ := touch_columns (data.apply c) c now
  have hs : ((data.apply c).touch c now).slug = data.slug.getD c.slug :=
    (congrArg Category.slug hcols).trans rfl
  refine ⟨c, _, hid, rfl, hc, hsys, (congrArg Category.id hcols).trans rfl,
    (congrArg Category.tenantId hcols).trans rfl, hs, (congrArg Category.type hcols).trans rfl,
    hactive.trans rfl, ?_⟩
  rw [hs]
  cases hdata : data.slug with
  | none => exact .inl rfl
  | some s =>
    right
    rw [hdata] at hslug
    rw [hid, htenant]
    exact checkSlug_free hslug

/-! ## Rows that are kept apart -/

/-- Some tenant sees both. -/
def SeenTogether (c d : CategoryRow) : Prop :=
  c.tenantId = d.tenantId ∨ c.tenantId = SYSTEM_TENANT_ID ∨ d.tenantId = SYSTEM_TENANT_ID

/-- Being seen together goes both ways. -/
lemma SeenTogether.symm {c d : CategoryRow} (h : SeenTogether c d) : SeenTogether d c :=
  h.imp Eq.symm Or.symm

/-- What is asked of the rows, without the tenants that see them. -/
structure Apart (rows : List CategoryRow) : Prop where
  distinct : ∀ c ∈ rows, ∀ d ∈ rows, SeenTogether c d → c.slug = d.slug → c = d
  nonempty : ∀ c ∈ rows, c.slug ≠ ""
  unshadowed : ∀ c ∈ rows, c.type = "tech" → c.isActive = true →
    c.tenantId = SYSTEM_TENANT_ID ∧ c.slug = "tech"

section

variable {db : CategoryTables} {tenantId : String}

/-- The tenant's own rows and the system's are visible. -/
lemma mem_visible {c : CategoryRow} : c ∈ visible db tenantId ↔
    c ∈ db.categories ∧ (c.tenantId = tenantId ∨ c.tenantId = SYSTEM_TENANT_ID) := by
  unfold visible
  simp [List.mem_filter]

/-- Two rows are seen together when one tenant sees both. -/
lemma seenTogether_iff {c d : CategoryRow} (hc : c ∈ db.categories) (hd : d ∈ db.categories) :
    SeenTogether c d ↔ ∃ tenantId, c ∈ visible db tenantId ∧ d ∈ visible db tenantId := by
  constructor
  · rintro (heq | hsys | hsys)
    · exact ⟨d.tenantId, mem_visible.2 ⟨hc, .inl heq⟩, mem_visible.2 ⟨hd, .inl rfl⟩⟩
    · exact ⟨d.tenantId, mem_visible.2 ⟨hc, .inr hsys⟩, mem_visible.2 ⟨hd, .inl rfl⟩⟩
    · exact ⟨c.tenantId, mem_visible.2 ⟨hc, .inl rfl⟩, mem_visible.2 ⟨hd, .inr hsys⟩⟩
  · rintro ⟨tenantId, hc, hd⟩
    obtain ⟨-, hc⟩ := mem_visible.1 hc
    obtain ⟨-, hd⟩ := mem_visible.1 hd
    rcases hc with hc | hc
    · rcases hd with hd | hd
      · exact .inl (hc.trans hd.symm)
      · exact .inr (.inr hd)
    · exact .inr (.inl hc)

/-- The slugs are distinct if no two rows seen together share one and none is empty. -/
lemma distinctSlugs_iff (hkeyed : Table.Unique (fun c : CategoryRow => c.id) db.categories) :
    DistinctSlugs db ↔
      (∀ c ∈ db.categories, ∀ d ∈ db.categories, SeenTogether c d → c.slug = d.slug → c = d) ∧
        ∀ c ∈ db.categories, c.slug ≠ "" := by
  constructor
  · rintro ⟨hdistinct, hnonempty⟩
    refine ⟨?_, fun c hc => hnonempty c.tenantId c (mem_visible.2 ⟨hc, .inl rfl⟩)⟩
    intro c hc d hd hseen hslug
    obtain ⟨tenantId, hc', hd'⟩ := (seenTogether_iff hc hd).1 hseen
    exact List.inj_on_of_nodup_map (hdistinct tenantId) hc' hd' hslug
  · rintro ⟨hdistinct, hnonempty⟩
    refine ⟨?_, fun tenantId c hc => hnonempty c (mem_visible.1 hc).1⟩
    intro tenantId
    apply List.Nodup.map_on ?_ ((List.Nodup.of_map _ hkeyed).filter _)
    intro c hc d hd hslug
    have hc' := (mem_visible.1 hc).1
    have hd' := (mem_visible.1 hd).1
    exact hdistinct c hc' d hd' ((seenTogether_iff hc' hd').2 ⟨tenantId, hc, hd⟩) hslug

/-- A lookup that no two rows answer finds at most one. -/
lemma lookup_ok (hkeyed : Table.Unique (fun c : CategoryRow => c.id) db.categories)
    {p : CategoryRow → Bool}
    (hp : ∀ c ∈ db.categories, ∀ d ∈ db.categories, p c = true → p d = true → c = d) :
    ∃ found, scalarOneOrNone (db.categories.filter p) = .ok found := by
  cases hrows : db.categories.filter p with
  | nil => exact ⟨none, rfl⟩
  | cons c rows =>
    obtain ⟨hc, hpc⟩ := List.mem_filter.1 (hrows ▸ List.mem_cons_self)
    rcases hkeyed.scalarOneOrNone (p := p) (k := c.id) (fun d hd hpd => by
      rw [hp d hd c hc hpd hpc]) with ⟨row, _, _, hfound⟩ | ⟨_, hfound⟩
    · rw [hrows] at hfound
      exact ⟨_, scalarOneOrNone_ok hfound⟩
    · rw [hrows] at hfound
      exact ⟨_, scalarOneOrNone_ok hfound⟩

/-- The rows of a duplicate lookup are all seen by the tenant. -/
lemma clashes_eq {c d : CategoryRow} {slug : String} (hc : clashes tenantId slug c = true)
    (hd : clashes tenantId slug d = true) : SeenTogether c d ∧ c.slug = d.slug := by
  obtain ⟨hc, hslug⟩ := of_decide_eq_true hc
  obtain ⟨hd, hslug'⟩ := of_decide_eq_true hd
  refine ⟨?_, hslug.trans hslug'.symm⟩
  rcases hc with hc | hc
  · rcases hd with hd | hd
    · exact .inl (hc.trans hd.symm)
    · exact .inr (.inr hd)
  · exact .inr (.inl hc)

/-- With the predefined category there, slugs are unambiguous exactly when the rows are apart. -/
lemma unambiguous_iff_apart {techId : String} {now : Int}
    (h : Predefined (techCategory techId now) db) : Unambiguous db ↔ Apart db.categories := by
  constructor
  · rintro ⟨hslugs, -, -, htech⟩
    obtain ⟨hdistinct, hnonempty⟩ := (distinctSlugs_iff h.keyed).1 hslugs
    refine ⟨hdistinct, hnonempty, ?_⟩
    rcases h.getTechCategory "" with ⟨hun, _⟩ | ⟨_, hget⟩
    · exact hun
    · obtain ⟨found, hfound⟩ := htech "" _ ((hget _).2 rfl)
      cases hfound
  · rintro ⟨hdistinct, hnonempty, hun⟩
    have hone : ∀ {tenantId slug}, ∀ c ∈ db.categories, ∀ d ∈ db.categories,
        clashes tenantId slug c = true → clashes tenantId slug d = true → c = d := by
      intro tenantId slug c hc d hd hc' hd'
      obtain ⟨hseen, hslug⟩ := clashes_eq hc' hd'
      exact hdistinct c hc d hd hseen hslug
    refine ⟨(distinctSlugs_iff h.keyed).2 ⟨hdistinct, hnonempty⟩, ?_, ?_, ?_⟩
    · intro tenantId slug
      exact lookup_ok h.keyed hone
    · intro tenantId slug categoryId
      apply lookup_ok h.keyed
      intro c hc d hd hpc hpd
      exact hone c hc d hd (Bool.and_eq_true_iff.1 hpc).1 (Bool.and_eq_true_iff.1 hpd).1
    · intro tenantId result hresult
      rcases h.getTechCategory tenantId with ⟨_, hget⟩ | ⟨hsh, _⟩
      · exact ⟨_, (hget result).1 hresult⟩
      · exact absurd hun hsh

/-! ## Steps -/

/-- A new row keeps the rows apart when it has a slug that no row it is seen with has. -/
lemma apart_append {rows : List CategoryRow} {c : CategoryRow} (h : Apart rows)
    (hfresh : ∀ r ∈ rows, r.id ≠ c.id) :
    Apart (rows ++ [c]) ↔ c.slug ≠ "" ∧ (∀ r ∈ rows, SeenTogether c r → r.slug ≠ c.slug) ∧
      (c.type = "tech" → c.isActive = true → c.tenantId = SYSTEM_TENANT_ID ∧ c.slug = "tech") := by
  have hlast : c ∈ rows ++ [c] := List.mem_append_right _ (List.mem_singleton_self c)
  constructor
  · rintro ⟨hdistinct, hnonempty, hun⟩
    refine ⟨hnonempty c hlast, ?_, hun c hlast⟩
    intro r hr hseen hslug
    have heq := hdistinct c hlast r (List.mem_append_left _ hr) hseen hslug.symm
    exact hfresh r hr (congrArg (fun c : CategoryRow => c.id) heq.symm)
  · rintro ⟨hne, hfree, htech⟩
    have hmem : ∀ {r}, r ∈ rows ++ [c] → r ∈ rows ∨ r = c := by
      intro r hr
      rcases List.mem_append.1 hr with hr | hr
      · exact .inl hr
      · exact .inr (List.mem_singleton.1 hr)
    refine ⟨?_, ?_, ?_⟩
    · intro a ha b hb hseen hslug
      rcases hmem ha with ha' | rfl
      · rcases hmem hb with hb' | rfl
        · exact h.distinct a ha' b hb' hseen hslug
        · exact absurd hslug (hfree a ha' hseen.symm)
      · rcases hmem hb with hb' | rfl
        · exact absurd hslug.symm (hfree b hb' hseen)
        · rfl
    · intro a ha
      rcases hmem ha with ha | rfl
      · exact h.nonempty a ha
      · exact hne
    · intro a ha
      rcases hmem ha with ha | rfl
      · exact h.unshadowed a ha
      · exact htech

/-- A rewritten row only has to keep a slug and not to shadow the predefined category. -/
lemma apart_replace {data : CategoryUpdate} {c c' : CategoryRow} (h : Apart db.categories)
    (hw : Rewritten db data c c') :
    Apart (Table.replace (·.id) c' db.categories) ↔
      c'.slug ≠ "" ∧ (c'.type = "tech" → c'.isActive = false) := by
  have hnew : c' ∈ Table.replace (·.id) c' db.categories :=
    Table.mem_replace.2 (.inl ⟨rfl, c, hw.mem, hw.id.symm⟩)
  have howned : c'.tenantId ≠ SYSTEM_TENANT_ID := by
    rw [hw.tenant]
    exact hw.owned
  constructor
  · rintro ⟨-, hnonempty, hun⟩
    refine ⟨hnonempty c' hnew, ?_⟩
    intro htech
    cases hactive : c'.isActive with
    | false => rfl
    | true => exact absurd (hun c' hnew htech hactive).1 howned
  · rintro ⟨hne, htech⟩
    -- the new slug meets none of the rows that it is seen with
    have hfree : ∀ r ∈ db.categories, r.id ≠ c'.id → SeenTogether c' r → c'.slug ≠ r.slug := by
      intro r hr hid hseen hslug
      rw [hw.id] at hid
      rcases hw.free with hsame | hempty | hfree
      · have hseen' : SeenTogether c r := by
          unfold SeenTogether at hseen ⊢
          rw [← hw.tenant]
          exact hseen
        have heq := h.distinct c hw.mem r hr hseen' (hsame.symm.trans hslug)
        exact hid (congrArg (fun c : CategoryRow => c.id) heq.symm)
      · exact hne hempty
      · have hclash := of_decide_eq_false (hfree r hr hid)
        rcases hseen with heq | hsys | hsys
        · exact hclash ⟨.inl (heq.symm.trans hw.tenant), hslug.symm⟩
        · exact howned hsys
        · exact hclash ⟨.inr hsys, hslug.symm⟩
    refine ⟨?_, ?_, ?_⟩
    · intro a ha b hb hseen hslug
      rcases Table.mem_replace.1 ha with ⟨rfl, _⟩ | ⟨ha', hida⟩
      · rcases Table.mem_replace.1 hb with ⟨rfl, _⟩ | ⟨hb', hidb⟩
        · rfl
        · exact absurd hslug (hfree b hb' hidb hseen)
      · rcases Table.mem_replace.1 hb with ⟨rfl, _⟩ | ⟨hb', hidb⟩
        · exact absurd hslug.symm (hfree a ha' hida hseen.symm)
        · exact h.distinct a ha' b hb' hseen hslug
    · intro a ha
      rcases Table.mem_replace.1 ha with ⟨rfl, _⟩ | ⟨ha, _⟩
      · exact hne
      · exact h.nonempty a ha
    · intro a ha htype hactive
      rcases Table.mem_replace.1 ha with ⟨rfl, _⟩ | ⟨ha, _⟩
      · rw [htech htype] at hactive
        cases hactive
      · exact h.unshadowed a ha htype hactive

/-- Fewer rows stay apart. -/
lemma Apart.sublist {rows rows' : List CategoryRow} (h : Apart rows) (hsub : rows'.Sublist rows) :
    Apart rows' where
  distinct c hc d hd := h.distinct c (hsub.mem hc) d (hsub.mem hd)
  nonempty c hc := h.nonempty c (hsub.mem hc)
  unshadowed c hc := h.unshadowed c (hsub.mem hc)

end

section

variable {py : Stdlib} {isalnum : Char → Bool} {db db' : CategoryTables} {tech : CategoryRow}

/-- A creation keeps the rows apart exactly if it is careful. -/
lemma create_apart {data : CategoryBody} {tenantId id : String} {now : Int}
    (hpre : Predefined tech db) (hsys : tech.tenantId = SYSTEM_TENANT_ID) (hslug : tech.slug = "tech")
    (h : Apart db.categories) (hw : db.write py isalnum (.create data tenantId id now) = .ok db') :
    Apart db'.categories ↔ Careful py isalnum db (.create data tenantId id now) := by
  obtain ⟨c, hrows, hc⟩ := create_added hw
  rw [hrows, apart_append h hc.fresh, hc.slug, hc.type, hc.active, hc.tenant]
  apply and_congr_right
  intro _
  apply and_congr
  · constructor
    · intro hfree hsystem r hr
      exact hfree r hr (.inr (.inl (hc.tenant.trans hsystem)))
    · intro hfree r hr hseen hclash
      have hnot := of_decide_eq_false (hc.free r hr)
      rw [hc.slug] at hnot
      rcases hseen with heq | hsystem | hsystem
      · exact hnot ⟨.inl (heq.symm.trans hc.tenant), hclash⟩
      · exact hfree (hc.tenant.symm.trans hsystem) r hr hclash
      · exact hnot ⟨.inr hsystem, hclash⟩
  · constructor
    · intro hun htech
      cases hactive : data.isActive with
      | false => rfl
      | true =>
        -- the predefined category has that slug
        have hnot := of_decide_eq_false (hc.free tech hpre.mem)
        rw [hc.slug, (hun htech hactive).2] at hnot
        exact absurd ⟨.inr hsys, hslug⟩ hnot
    · intro hoff htech hactive
      rw [hoff htech] at hactive
      cases hactive

/-- An update keeps the rows apart exactly if it is careful. -/
lemma update_apart {categoryId tenantId : String} {data : CategoryUpdate} {now : Int}
    (hkeyed : Table.Unique (fun c : CategoryRow => c.id) db.categories)
    (h : Apart db.categories)
    (hw : db.write py isalnum (.update categoryId data tenantId now) = .ok db') :
    Apart db'.categories ↔ Careful py isalnum db (.update categoryId data tenantId now) := by
  obtain ⟨c, c', hid, hrows, hc⟩ := update_rewritten hw
  rw [hrows, apart_replace h hc, hc.slug, hc.type, hc.active]
  apply and_congr
  · cases hdata : data.slug with
    | none => exact iff_of_true (h.nonempty c hc.mem) (by simp)
    | some s => exact not_congr ⟨congrArg some, Option.some.inj⟩
  · constructor
    · intro hoff d hd hid'
      rw [hkeyed.eq_of_mem hd hc.mem (hid'.trans hid.symm)]
      exact hoff
    · intro hoff
      exact hoff c hc.mem hid

/-- A deletion keeps the rows apart. -/
lemma delete_apart {categoryId tenantId : String} (h : Apart db.categories)
    (hw : deleteCategory db categoryId tenantId = .ok db') : Apart db'.categories := by
  have heffect := delete_effect hw
  generalize db'.categories = rows at heffect
  cases heffect with
  | kept => exact h
  | deleted _ _ _ => exact h.sublist List.filter_sublist

/-- A write that succeeds keeps the rows apart exactly when it is careful. -/
lemma write_apart {l : WriteLabel} (hpre : Predefined tech db)
    (hsys : tech.tenantId = SYSTEM_TENANT_ID) (hslug : tech.slug = "tech") (h : Apart db.categories)
    (hw : db.write py isalnum l = .ok db') : Apart db'.categories ↔ Careful py isalnum db l := by
  cases l with
  | create data tenantId id now => exact create_apart hpre hsys hslug h hw
  | update categoryId data tenantId now => exact update_apart hpre.keyed h hw
  | delete categoryId tenantId => exact iff_of_true (delete_apart h hw) trivial
  | others tenants sources items =>
    cases hw
    exact iff_of_true h trivial

/-- A careful write keeps the rows apart. -/
lemma WriteStep.apart {l : WriteLabel} (hpre : Predefined tech db)
    (hsys : tech.tenantId = SYSTEM_TENANT_ID) (hslug : tech.slug = "tech") (h : Apart db.categories)
    (hc : Careful py isalnum db l) (hst : WriteStep py isalnum db l db') : Apart db'.categories := by
  rw [hst]
  unfold CategoryTables.next
  split
  · rename_i db'' hw
    exact (write_apart hpre hsys hslug h hw).2 hc
  · exact h

/-- The seed rows are apart. -/
lemma apart_of_seeded (hseed : db.Seeded) : Apart db.categories := by
  obtain ⟨financeId, techId, now, now', _, hrows⟩ := hseed
  have hmem : ∀ {c}, c ∈ db.categories →
      c = financeCategory financeId now ∨ c = techCategory techId now' := by
    intro c hc
    rw [hrows] at hc
    simpa using hc
  refine ⟨?_, ?_, unshadowed_of_seeded ⟨financeId, techId, now, now', by assumption, hrows⟩⟩
  · intro c hc d hd _ hslug
    rcases hmem hc with rfl | rfl
    · rcases hmem hd with rfl | rfl
      · rfl
      · exact absurd hslug (by simp [financeCategory, techCategory])
    · rcases hmem hd with rfl | rfl
      · exact absurd hslug (by simp [financeCategory, techCategory])
      · rfl
  · intro c hc
    rcases hmem hc with rfl | rfl
    · simp [financeCategory]
    · simp [techCategory]

end

/-- A run of careful requests ends in a state where slugs are unambiguous, and there a request that is
accepted keeps them so exactly when it is careful. -/
theorem unambiguous_iff_careful {py : Stdlib} {isalnum : Char → Bool} {db₀ db : CategoryTables}
    {ls : List WriteLabel} (hseed : db₀.Seeded)
    (run : Guarded (WriteStep py isalnum) (Careful py isalnum) db₀ ls db) :
    Unambiguous db ∧ ∀ l db', db.write py isalnum l = .ok db' →
      (Unambiguous db' ↔ Careful py isalnum db l) := by
  obtain ⟨techId, now, hpre₀⟩ := @predefined_of_run py isalnum _ _ _ hseed .nil
  obtain ⟨hpre, hapart⟩ := run.invariant
    (I := fun db => Predefined (techCategory techId now) db ∧ Apart db.categories)
    (fun hc h hst => ⟨hst.predefined rfl rfl h.1, hst.apart h.1 rfl rfl h.2 hc⟩)
    ⟨hpre₀, apart_of_seeded hseed⟩
  refine ⟨(unambiguous_iff_apart hpre).2 hapart, ?_⟩
  intro l db' hw
  have hst : WriteStep py isalnum db l db' := by
    show db' = db.next py isalnum l
    unfold CategoryTables.next
    rw [hw]
  rw [unambiguous_iff_apart (hst.predefined rfl rfl hpre)]
  exact write_apart hpre rfl rfl hapart hw

namespace Sample

/-- A category of which no slug can be made. -/
def nameless : CategoryBody :=
  { gadgets with name := "!!!", slug := none, type := "news" }

def gizmos : CategoryBody :=
  { gadgets with slug := some "gizmos", type := "news" }

end Sample

open Sample in
/-- After `b` has made a category, on the next request of `b`. -/
theorem unambiguous_iff_careful_gizmos :
    let library := AsyncSchedulerManager.Sample.library
    let db := seeded.next library Char.isAlphanum (.create gizmos "b" "c3" 1)
    Unambiguous db ∧ ∀ l db', db.write library Char.isAlphanum l = .ok db' →
      (Unambiguous db' ↔ Careful library Char.isAlphanum db l) :=
  @unambiguous_iff_careful _ _ _ _ [.create gizmos "b" "c3" 1] seeded_seeded
    (.cons ⟨by decide, fun h => absurd h (by decide), fun h => absurd h (by decide)⟩ rfl .nil)

open Sample in
/-- A name without letters or digits gives the empty slug. -/
theorem nameless_has_no_slug : ¬ ∀ (py : Stdlib) (isalnum : Char → Bool) (db₀ db : CategoryTables)
    (ls : List WriteLabel), db₀.Seeded → Steps (WriteStep py isalnum) db₀ ls db →
      Unambiguous db := by
  intro h
  have hun := h AsyncSchedulerManager.Sample.library Char.isAlphanum seeded _
    [.create nameless "b" "c3" 1] seeded_seeded (.single rfl)
  have hempty : ∃ c ∈ visible (seeded.next AsyncSchedulerManager.Sample.library Char.isAlphanum
      (.create nameless "b" "c3" 1)) "b", c.slug = "" := by
    decide +kernel
  obtain ⟨c, hc, hslug⟩ := hempty
  exact hun.nonempty "b" c hc hslug

end InstantBoard.CategoryService
