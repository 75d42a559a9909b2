import InstantBoard.Services.CategoryReads

/-!
# What a tenant can see of another

Two states that differ only in the rows of a tenant `B`, as another tenant `A` reads them. The list
and the single categories are the same except for what hangs under them: a read answers the same in
both states exactly when `B` has as many sources there, the same sources, or the same tags, and when
the id asked for is a category of `B` in both states or in neither (`reads_same_iff`).
-/

namespace InstantBoard.CategoryService

open Query

/-! ## Agreement -/

/-- The states differ in the rows of `B` only. -/
structure AgreeOutside (B : String) (db db' : CategoryTables) : Prop where
  tenants : Query.AgreeOutside (fun t : TenantRow => decide (t.id = B)) db.tenants db'.tenants
  categories : Query.AgreeOutside (fun c : CategoryRow => decide (c.tenantId = B)) db.categories
    db'.categories
  sources : Query.AgreeOutside (fun s : SourceRow => decide (s.tenantId = B)) db.sources db'.sources
  items : Query.AgreeOutside (fun i : ItemRow => decide (i.tenantId = B)) db.items db'.items

/-- Agreement outside goes both ways. -/
lemma AgreeOutside.symm {B : String} {db db' : CategoryTables} (h : AgreeOutside B db db') :
    AgreeOutside B db' db :=
  ⟨h.tenants.symm, h.categories.symm, h.sources.symm, h.items.symm⟩

inductive ReadRequest where
  | listCategories (p : ListParams)
  | getCategory (categoryId : String)
  | getCategoryWithSources (categoryId : String)
  | listSubcategories (categoryId : String)

/-- The request has the same responses in both states. -/
def SameResponses (collate : String → String → Prop) (db db' : CategoryTables) (A : String) :
    ReadRequest → Prop
  | .listCategories p => ∀ response,
      ListCategories collate db A p response ↔ ListCategories collate db' A p response
  | .getCategory id => getCategory db id A = getCategory db' id A
  | .getCategoryWithSources id => ∀ response,
      GetCategoryWithSources db id A response ↔ GetCategoryWithSources db' id A response
  | .listSubcategories id => ∀ response,
      ListSubcategories db id A response ↔ ListSubcategories db' id A response

/-! ## What `B` has where `A` looks -/

/-- `B`'s sources under the category. -/
def sourcesOf (B : String) (db : CategoryTables) (categoryId : String) : List SourceRow :=
  (db.sources.filter fun s => decide (s.tenantId = B)).filter (·.categoryId = categoryId)

/-- How often `B`'s items under the category have the tag. -/
def tagCountOf (B : String) (db : CategoryTables) (categoryId tag : String) : Nat :=
  (((db.items.filter fun i => decide (i.tenantId = B)).filter (·.categoryId = categoryId)).map
    fun i => i.topicTags.count tag).sum

/-- The id is a category of `B`. -/
def OwnsCategory (B : String) (db : CategoryTables) (categoryId : String) : Prop :=
  ∃ c ∈ db.categories, c.id = categoryId ∧ c.tenantId = B

/-- A category that `A` may see. -/
def Visible (db : CategoryTables) (categoryId A : String) (c : CategoryRow) : Prop :=
  c ∈ db.categories ∧ c.id = categoryId ∧ (c.tenantId = A ∨ c.tenantId = SYSTEM_TENANT_ID)

/-- What of `B` the request shows is the same in both states. -/
def SameShown (collate : String → String → Prop) (B : String) (db db' : CategoryTables)
    (A : String) : ReadRequest → Prop
  | .listCategories p => ∀ r, order collate p = .ok r →
      ∀ rows, OrderBy r (db.categories.filter (listed A p)) rows → ∀ c ∈ p.slice rows,
        (sourcesOf B db c.id).length = (sourcesOf B db' c.id).length
  | .getCategory id => (OwnsCategory B db id ↔ OwnsCategory B db' id) ∧
      ∀ c, Visible db id A c → (sourcesOf B db id).length = (sourcesOf B db' id).length
  | .getCategoryWithSources id => (OwnsCategory B db id ↔ OwnsCategory B db' id) ∧
      ∀ c, Visible db id A c →
        ((sourcesOf B db id).map SourceRow.entry).Perm ((sourcesOf B db' id).map SourceRow.entry)
  | .listSubcategories id => (OwnsCategory B db id ↔ OwnsCategory B db' id) ∧
      ∀ c, Visible db id A c → ∀ tag, isLevel1 c.slug tag = false → isL2 c.slug tag = true →
        tagCountOf B db id tag = tagCountOf B db' id tag

/-! ## The category of a request -/

/-- An id finds its one row or none. -/
lemma scalarOneOrNone_id {db : CategoryTables} (hk : db.Keyed) (id : String) :
    (∃ c ∈ db.categories, c.id = id ∧
        Table.scalarOneOrNone (db.categories.filter (·.id = id)) = .ok (some c)) ∨
      (∀ c ∈ db.categories, c.id ≠ id) ∧
        Table.scalarOneOrNone (db.categories.filter (·.id = id)) = .ok none := by
  rcases hk.categories.scalarOneOrNone (p := fun c => decide (c.id = id)) (k := id)
    (fun c _ hc => of_decide_eq_true hc) with ⟨c, hc, hid, heq⟩ | ⟨hno, heq⟩
  · exact .inl ⟨c, hc, of_decide_eq_true hid, heq⟩
  · exact .inr ⟨fun c hc => of_decide_eq_false (hno c hc), heq⟩

/-- What `findAccessible` finds. -/
inductive Finds (db : CategoryTables) (id A : String) : Except ReadError CategoryRow → Prop where
  | visible {c} : Visible db id A c → Finds db id A (.ok c)
  | hidden {c} : c ∈ db.categories → c.id = id → c.tenantId ≠ A → c.tenantId ≠ SYSTEM_TENANT_ID →
      Finds db id A (.error (.categoryNotFound "Category not accessible for this tenant"))
  | absent : (∀ c ∈ db.categories, c.id ≠ id) →
      Finds db id A (.error (.categoryNotFound "Category not found"))

/-- The service finds what is visible. -/
lemma findAccessible_finds {db : CategoryTables} (hk : db.Keyed) (id A : String) :
    Finds db id A (findAccessible db id A) := by
  unfold findAccessible
  rcases scalarOneOrNone_id hk id with ⟨c, hc, hid, heq⟩ | ⟨hno, heq⟩
  · rw [heq]
    show Finds db id A (if c.tenantId ≠ A ∧ c.tenantId ≠ SYSTEM_TENANT_ID then _ else _)
    split
    · rename_i h
      exact .hidden hc hid h.1 h.2
    · rename_i h
      exact .visible ⟨hc, hid, by tauto⟩
  · rw [heq]
    exact .absent hno

/-- A category is found exactly if it is visible. -/
lemma findAccessible_eq_ok {db : CategoryTables} (hk : db.Keyed) {id A : String}
    {c : CategoryRow} : findAccessible db id A = .ok c ↔ Visible db id A c := by
  have hfinds := findAccessible_finds hk id A
  generalize findAccessible db id A = found at hfinds
  cases hfinds with
  | @visible c' hc' =>
    constructor
    · intro h
      cases h
      exact hc'
    · intro h
      rw [hk.categories.eq_of_mem hc'.1 h.1 (hc'.2.1.trans h.2.1.symm)]
  | @hidden c' hc' hid hA hsys =>
    constructor
    · intro h
      cases h
    · intro h
      have := hk.categories.eq_of_mem hc' h.1 (hid.trans h.2.1.symm)
      subst this
      rcases h.2.2 with h | h
      · exact absurd h hA
      · exact absurd h hsys
  | absent hno =>
    constructor
    · intro h
      cases h
    · intro h
      exact absurd h.2.1 (hno c h.1)

section

variable {collate : String → String → Prop} {A B : String} {db db' : CategoryTables}

/-- A row with the id tells whose category it is. -/
lemma ownsCategory_iff (hk : db.Keyed) {c : CategoryRow} (hc : c ∈ db.categories) :
    OwnsCategory B db c.id ↔ c.tenantId = B := by
  constructor
  · rintro ⟨c', hc', hid, htenant⟩
    rw [hk.categories.eq_of_mem hc hc' hid.symm]
    exact htenant
  · intro h
    exact ⟨c, hc, rfl, h⟩

/-- The categories of others are there in both. -/
lemma AgreeOutside.mem_category_iff (h : AgreeOutside B db db') {c : CategoryRow}
    (hc : c.tenantId ≠ B) : c ∈ db.categories ↔ c ∈ db'.categories :=
  h.categories.mem_iff (decide_eq_false hc)

/-- What is visible to another tenant is not the tenant's. -/
lemma Visible.ne_owner (hAB : A ≠ B) (hB : B ≠ SYSTEM_TENANT_ID) {id : String} {c : CategoryRow}
    (h : Visible db id A c) : c.tenantId ≠ B := by
  rcases h.2.2 with h | h
  · rw [h]
    exact hAB
  · rw [h]
    exact hB.symm

/-- What is visible in one is visible in the other. -/
lemma AgreeOutside.visible (h : AgreeOutside B db db') (hAB : A ≠ B) (hB : B ≠ SYSTEM_TENANT_ID)
    {id : String} {c : CategoryRow} (hc : Visible db id A c) : Visible db' id A c :=
  ⟨(h.mem_category_iff (hc.ne_owner hAB hB)).1 hc.1, hc.2⟩

/-- A row in one state only is `B`'s. -/
lemma AgreeOutside.owner_of_absent (h : AgreeOutside B db db') {id : String} {c : CategoryRow}
    (hc : c ∈ db.categories) (hid : c.id = id) (hno : ∀ c ∈ db'.categories, c.id ≠ id) :
    c.tenantId = B := by
  by_contra hne
  exact hno c ((h.mem_category_iff hne).1 hc) hid

/-- The two refusals differ in their message. -/
lemma messages_ne : (Except.error (ReadError.categoryNotFound "Category not found") :
    Except ReadError CategoryRow) ≠
      .error (.categoryNotFound "Category not accessible for this tenant") := by
  intro h
  simp at h

/-- The category is found alike exactly when the id is `B`'s in both states or in neither: a category
of `B` is refused with another message than one that is not there. -/
lemma findAccessible_same_iff (hk : db.Keyed) (hk' : db'.Keyed) (h : AgreeOutside B db db')
    (hAB : A ≠ B) (hB : B ≠ SYSTEM_TENANT_ID) (id : String) :
    findAccessible db id A = findAccessible db' id A ↔
      (OwnsCategory B db id ↔ OwnsCategory B db' id) := by
  have hfinds := findAccessible_finds hk id A
  have hfinds' := findAccessible_finds hk' id A
  generalize hfound : findAccessible db id A = found at hfinds ⊢
  generalize hfound' : findAccessible db' id A = found' at hfinds' ⊢
  cases hfinds with
  | @visible c hc =>
    have hc' := h.visible hAB hB hc
    have heq := (findAccessible_eq_ok hk').2 hc'
    rw [hfound'] at heq
    have hne := hc.ne_owner hAB hB
    obtain ⟨hmem, rfl, _⟩ := hc
    apply iff_of_true heq.symm
    rw [ownsCategory_iff hk hmem, ownsCategory_iff hk' hc'.1]
  | @hidden c hc hid hA hsys =>
    cases hfinds' with
    | @visible c' hc' =>
      have heq := (findAccessible_eq_ok hk).2 (h.symm.visible hAB hB hc')
      rw [hfound] at heq
      cases heq
    | @hidden c' hc' hid' _ _ =>
      apply iff_of_true rfl
      subst hid
      rw [ownsCategory_iff hk hc, ← hid', ownsCategory_iff hk' hc']
      constructor
      · intro htenant
        by_contra hne
        have := hk.categories.eq_of_mem ((h.mem_category_iff hne).2 hc') hc hid'
        subst this
        exact hne htenant
      · intro htenant
        by_contra hne
        have := hk'.categories.eq_of_mem ((h.mem_category_iff hne).1 hc) hc' hid'.symm
        subst this
        exact hne htenant
    | absent hno =>
      apply iff_of_false
      · exact messages_ne.symm
      · intro howns
        obtain ⟨c', hc', hid', _⟩ := howns.1 ⟨c, hc, hid, h.owner_of_absent hc hid hno⟩
        exact hno c' hc' hid'
  | absent hno =>
    cases hfinds' with
    | @visible c' hc' =>
      have heq := (findAccessible_eq_ok hk).2 (h.symm.visible hAB hB hc')
      rw [hfound] at heq
      cases heq
    | @hidden c' hc' hid' _ _ =>
      apply iff_of_false
      · exact messages_ne
      · intro howns
        obtain ⟨c, hc, hid, _⟩ :=
          howns.2 ⟨c', hc', hid', h.symm.owner_of_absent hc' hid' hno⟩
        exact hno c hc hid
    | absent hno' =>
      apply iff_of_true rfl
      apply iff_of_false
      · rintro ⟨c, hc, hid, _⟩
        exact hno c hc hid
      · rintro ⟨c, hc, hid, _⟩
        exact hno' c hc hid

/-- A read of the category that was found. -/
def Answers {β : Type} (found : Except ReadError CategoryRow)
    (read : CategoryRow → Except ReadError β → Prop) (response : Except ReadError β) : Prop :=
  match found with
  | .error e => response = .error e
  | .ok c => read c response

/-- A read of one category has the same responses when the category is found alike and, where it is
found, read alike. -/
lemma answers_same_iff (hk : db.Keyed) (hk' : db'.Keyed) (h : AgreeOutside B db db')
    (hAB : A ≠ B) (hB : B ≠ SYSTEM_TENANT_ID) (id : String) {β : Type}
    (read read' : CategoryRow → Except ReadError β → Prop) :
    (∀ response, Answers (findAccessible db id A) read response ↔
        Answers (findAccessible db' id A) read' response) ↔
      (OwnsCategory B db id ↔ OwnsCategory B db' id) ∧
        ∀ c, Visible db id A c → ∀ response, read c response ↔ read' c response := by
  rw [← findAccessible_same_iff hk hk' h hAB hB id]
  cases hfound : findAccessible db id A with
  | ok c =>
    have hc := (findAccessible_eq_ok hk).1 hfound
    have hfound' := (findAccessible_eq_ok hk').2 (h.visible hAB hB hc)
    rw [hfound']
    constructor
    · intro hall
      refine ⟨rfl, ?_⟩
      intro c' hc'
      have := hk.categories.eq_of_mem hc'.1 hc.1 (hc'.2.1.trans hc.2.1.symm)
      subst this
      exact hall
    · intro hread
      exact hread.2 c hc
  | error e =>
    have hnone : ∀ c, ¬ Visible db id A c := by
      intro c hc
      rw [(findAccessible_eq_ok hk).2 hc] at hfound
      cases hfound
    cases hfound' : findAccessible db' id A with
    | ok c =>
      exact absurd (h.symm.visible hAB hB ((findAccessible_eq_ok hk').1 hfound')) (hnone c)
    | error e' =>
      constructor
      · intro hall
        have : (Except.error e : Except ReadError β) = .error e' := (hall (.error e)).1 rfl
        cases this
        exact ⟨rfl, fun c hc => absurd hc (hnone c)⟩
      · rintro ⟨heq, _⟩
        cases heq
        exact fun _ => Iff.rfl

/-! ## The four reads -/

/-- The colours are the tenant's own. -/
lemma AgreeOutside.colorOverrides_eq (h : AgreeOutside B db db') (hAB : A ≠ B) :
    colorOverrides db A = colorOverrides db' A := by
  have hperm : (db.tenants.filter (·.id = A)).Perm (db'.tenants.filter (·.id = A)) := by
    apply h.tenants.filter_perm
    intro t ht
    rw [of_decide_eq_true ht]
    exact decide_eq_false hAB
  unfold colorOverrides
  rw [Table.scalarOneOrNone_perm hperm]

/-- The source counts agree exactly if the tenant's own sources are as many. -/
lemma AgreeOutside.sourceCount_eq_iff (h : AgreeOutside B db db') (id : String) :
    sourceCount db id = sourceCount db' id ↔
      (sourcesOf B db id).length = (sourcesOf B db' id).length :=
  h.sources.length_filter_eq_iff _

/-- A response tells the source count. -/
lemma categoryToResponse_eq_iff {c : CategoryRow} {n n' : Nat} {colors : List (String × String)} :
    categoryToResponse c n colors = categoryToResponse c n' colors ↔ n = n' := by
  constructor
  · exact fun h => congrArg CategoryResponse.sourceCount h
  · intro h
    rw [h]

/-- One category reads the same exactly under its part of the condition. -/
lemma getCategory_same_iff (hk : db.Keyed) (hk' : db'.Keyed) (h : AgreeOutside B db db')
    (hAB : A ≠ B) (hB : B ≠ SYSTEM_TENANT_ID) (id : String) :
    getCategory db id A = getCategory db' id A ↔
      (OwnsCategory B db id ↔ OwnsCategory B db' id) ∧
        ∀ c, Visible db id A c →
          (sourcesOf B db id).length = (sourcesOf B db' id).length := by
  have answers : ∀ (db : CategoryTables) response, response = getCategory db id A ↔
      Answers (findAccessible db id A) (fun c response => response =
        .ok (categoryToResponse c (sourceCount db id) (colorOverrides db A))) response := by
    intro db response
    unfold getCategory Answers
    cases findAccessible db id A with
    | error e => rfl
    | ok c => rfl
  have hread : ∀ c : CategoryRow, (∀ response : Except ReadError CategoryResponse,
      response = .ok (categoryToResponse c (sourceCount db id) (colorOverrides db A)) ↔
        response = .ok (categoryToResponse c (sourceCount db' id) (colorOverrides db' A))) ↔
      (sourcesOf B db id).length = (sourcesOf B db' id).length := by
    intro c
    rw [← h.sourceCount_eq_iff, h.colorOverrides_eq hAB]
    constructor
    · intro hall
      exact categoryToResponse_eq_iff.1 (Except.ok.inj ((hall _).1 rfl))
    · intro heq _
      rw [heq]
  constructor
  · intro heq
    have hall := (answers_same_iff hk hk' h hAB hB id _ _).1
      (fun response => (answers db response).symm.trans (heq ▸ answers db' response))
    exact ⟨hall.1, fun c hc => (hread c).1 (hall.2 c hc)⟩
  · intro hshown
    have hall := (answers_same_iff hk hk' h hAB hB id _ _).2
      ⟨hshown.1, fun c hc => (hread c).2 (hshown.2 c hc)⟩
    exact (answers db' _).2 ((hall _).1 ((answers db _).1 rfl))

/-- By priority, as the entries show it. -/
def byPriority (a b : SourceEntry) : Prop :=
  a.priority ≤ b.priority

instance : DecidableRel byPriority := fun a b => inferInstanceAs (Decidable (a.priority ≤ b.priority))

instance : Std.Total byPriority := ⟨fun a b => le_total a.priority b.priority⟩

instance : IsTrans SourceEntry byPriority := ⟨fun _ _ _ => le_trans⟩

/-- A category with sources reads the same exactly under its part of the condition. -/
lemma getCategoryWithSources_same_iff (hk : db.Keyed) (hk' : db'.Keyed) (h : AgreeOutside B db db')
    (hAB : A ≠ B) (hB : B ≠ SYSTEM_TENANT_ID) (id : String) :
    (∀ response, GetCategoryWithSources db id A response ↔
        GetCategoryWithSources db' id A response) ↔
      (OwnsCategory B db id ↔ OwnsCategory B db' id) ∧
        ∀ c, Visible db id A c → ((sourcesOf B db id).map SourceRow.entry).Perm
          ((sourcesOf B db' id).map SourceRow.entry) := by
  refine (answers_same_iff hk hk' h hAB hB id _ _).trans (and_congr_right fun _ => ?_)
  apply forall_congr'
  intro c
  apply imp_congr_right
  intro _
  -- the listings are those of the entries
  have entries : ∀ (db : CategoryTables) (response : Except ReadError CategoryWithSourcesResponse),
      (∃ sources, OrderBy (fun a b : SourceRow => a.priority ≤ b.priority)
        (db.sources.filter (·.categoryId = id)) sources ∧
        response = .ok (withSources c (sources.map SourceRow.entry))) ↔
      ∃ o, OrderBy byPriority ((db.sources.filter (·.categoryId = id)).map SourceRow.entry) o ∧
        response = .ok (withSources c o) := by
    intro db response
    constructor
    · rintro ⟨sources, hsources, rfl⟩
      exact ⟨_, orderBy_map_iff.1 ⟨sources, hsources, rfl⟩, rfl⟩
    · rintro ⟨o, ho, rfl⟩
      obtain ⟨sources, hsources, rfl⟩ := orderBy_map_iff.2 ho
      exact ⟨sources, hsources, rfl⟩
  have hinj : Function.Injective fun o =>
      (Except.ok (withSources c o) : Except ReadError CategoryWithSourcesResponse) :=
    fun o o' heq => congrArg CategoryWithSourcesResponse.sources (Except.ok.inj heq)
  calc (∀ response, _ ↔ _)
      ↔ ∀ response, (∃ o, OrderBy byPriority
            ((db.sources.filter (·.categoryId = id)).map SourceRow.entry) o ∧
            response = .ok (withSources c o)) ↔
          ∃ o, OrderBy byPriority
            ((db'.sources.filter (·.categoryId = id)).map SourceRow.entry) o ∧
            response = .ok (withSources c o) :=
        forall_congr' fun response => iff_congr (entries db response) (entries db' response)
    _ ↔ _ := Query.answers_same_iff hinj
    _ ↔ _ := listings_same_iff
    _ ↔ _ := h.sources.map_filter_perm_iff _ _

/-! ### Tags -/

/-- A tag row that the response has. -/
def shownRow (slug : String) (row : String × Nat) : Bool :=
  !isLevel1 slug row.1 && isL2 slug row.1

/-- Over rows of different tags the loop keeps the rows that are shown. -/
lemma subcategories_eq (slug : String) : ∀ (rows : List (String × Nat)) (seen : List String),
    (rows.map Prod.fst).Nodup → (∀ row ∈ rows, row.1 ∉ seen) →
      subcategories slug seen rows = (rows.filter (shownRow slug)).map subCategoryResponse := by
  intro rows
  induction rows with
  | nil => exact fun _ _ _ => rfl
  | cons row rows ih =>
    obtain ⟨tag, count⟩ := row
    intro seen hnodup hseen
    obtain ⟨htag, hrows⟩ := List.nodup_cons.1 hnodup
    have hrest : ∀ row ∈ rows, row.1 ∉ tag :: seen := by
      intro row hrow hmem
      rcases List.mem_cons.1 hmem with heq | hmem
      · exact htag (List.mem_map.2 ⟨row, hrow, heq⟩)
      · exact hseen row (.tail _ hrow) hmem
    have hnew : tag ∉ seen := hseen (tag, count) List.mem_cons_self
    rw [subcategories, if_neg hnew, ih (tag :: seen) hrows hrest]
    cases h1 : isLevel1 slug tag with
    | true =>
      rw [if_pos rfl, List.filter_cons_of_neg (by simp [shownRow, h1])]
    | false =>
      rw [if_neg Bool.false_ne_true]
      cases h2 : isL2 slug tag with
      | true =>
        rw [if_pos rfl, List.filter_cons_of_pos (by simp [shownRow, h1, h2])]
        rfl
      | false =>
        rw [if_neg Bool.false_ne_true, List.filter_cons_of_neg (by simp [shownRow, h2])]

/-- A tag's row has its number. -/
lemma mem_tagRows {tags : List String} {row : String × Nat} :
    row ∈ tagRows tags ↔ row.1 ∈ tags ∧ row.2 = tags.count row.1 := by
  obtain ⟨tag, count⟩ := row
  unfold tagRows
  rw [List.mem_map]
  constructor
  · rintro ⟨tag', htag, heq⟩
    cases heq
    exact ⟨List.mem_dedup.1 htag, rfl⟩
  · rintro ⟨htag, hcount⟩
    exact ⟨tag, List.mem_dedup.2 htag, Prod.ext rfl hcount.symm⟩

/-- Every tag has one row. -/
lemma tagRows_fst (tags : List String) : (tagRows tags).map Prod.fst = tags.dedup := by
  unfold tagRows
  rw [List.map_map]
  exact List.map_id _

/-- The rows shown are the same exactly when every tag that is shown occurs as often. -/
lemma tagRows_perm_iff (slug : String) {tags tags' : List String} :
    ((tagRows tags).filter (shownRow slug)).Perm ((tagRows tags').filter (shownRow slug)) ↔
      ∀ tag, isLevel1 slug tag = false → isL2 slug tag = true →
        tags.count tag = tags'.count tag := by
  have shown : ∀ tag n, shownRow slug (tag, n) = true ↔
      isLevel1 slug tag = false ∧ isL2 slug tag = true := by
    intro tag n
    simp [shownRow]
  have nodup : ∀ tags : List String, ((tagRows tags).filter (shownRow slug)).Nodup := by
    intro tags
    apply List.Nodup.filter
    apply List.Nodup.of_map Prod.fst
    rw [tagRows_fst]
    exact List.nodup_dedup tags
  constructor
  · intro hperm tag h1 h2
    -- a tag that occurs in one list occurs as often in the other
    have count_eq : ∀ {tags tags' : List String},
        ((tagRows tags).filter (shownRow slug)).Perm ((tagRows tags').filter (shownRow slug)) →
          tag ∈ tags → tags.count tag = tags'.count tag := by
      intro tags tags' hperm htag
      have hrow : (tag, tags.count tag) ∈ (tagRows tags).filter (shownRow slug) :=
        List.mem_filter.2 ⟨mem_tagRows.2 ⟨htag, rfl⟩, (shown tag _).2 ⟨h1, h2⟩⟩
      exact (mem_tagRows.1 (List.mem_filter.1 (hperm.mem_iff.1 hrow)).1).2
    by_cases htag : tag ∈ tags
    · exact count_eq hperm htag
    · by_cases htag' : tag ∈ tags'
      · exact (count_eq hperm.symm htag').symm
      · rw [List.count_eq_zero_of_not_mem htag, List.count_eq_zero_of_not_mem htag']
  · intro hcount
    apply (List.perm_ext_iff_of_nodup (nodup tags) (nodup tags')).2
    rintro ⟨tag, n⟩
    rw [List.mem_filter, List.mem_filter, mem_tagRows, mem_tagRows, shown]
    constructor
    · rintro ⟨⟨hmem, hn⟩, h1, h2⟩
      have heq := hcount tag h1 h2
      have hpos := List.count_pos_iff.2 hmem
      rw [heq] at hpos
      exact ⟨⟨List.count_pos_iff.1 hpos, hn.trans heq⟩, h1, h2⟩
    · rintro ⟨⟨hmem, hn⟩, h1, h2⟩
      have heq := hcount tag h1 h2
      have hpos := List.count_pos_iff.2 hmem
      rw [← heq] at hpos
      exact ⟨⟨List.count_pos_iff.1 hpos, hn.trans heq.symm⟩, h1, h2⟩

/-- The tag counts agree exactly if the tenant's own items have the tag as often. -/
lemma AgreeOutside.tagCount_eq_iff (h : AgreeOutside B db db') (id tag : String) :
    (itemTags db id).count tag = (itemTags db' id).count tag ↔
      tagCountOf B db id tag = tagCountOf B db' id tag := by
  unfold itemTags
  rw [List.count_flatMap, List.count_flatMap]
  exact h.items.sum_filter_eq_iff _ _

/-- By the counts, the largest first. -/
def byCount (a b : String × Nat) : Prop :=
  b.2 ≤ a.2

instance : DecidableRel byCount := fun a b => inferInstanceAs (Decidable (b.2 ≤ a.2))

instance : Std.Total byCount := ⟨fun a b => le_total b.2 a.2⟩

instance : IsTrans (String × Nat) byCount := ⟨fun _ _ _ hab hbc => le_trans hbc hab⟩

/-- A subcategory's response tells tag and number. -/
lemma subCategoryResponse_injective : Function.Injective subCategoryResponse := by
  intro row row' h
  exact Prod.ext (congrArg SubCategoryResponse.tag h) (congrArg SubCategoryResponse.count h)

/-- The subcategories read the same exactly under their part of the condition. -/
lemma listSubcategories_same_iff (hk : db.Keyed) (hk' : db'.Keyed) (h : AgreeOutside B db db')
    (hAB : A ≠ B) (hB : B ≠ SYSTEM_TENANT_ID) (id : String) :
    (∀ response, ListSubcategories db id A response ↔ ListSubcategories db' id A response) ↔
      (OwnsCategory B db id ↔ OwnsCategory B db' id) ∧
        ∀ c, Visible db id A c → ∀ tag, isLevel1 c.slug tag = false → isL2 c.slug tag = true →
          tagCountOf B db id tag = tagCountOf B db' id tag := by
  refine (answers_same_iff hk hk' h hAB hB id _ _).trans (and_congr_right fun _ => ?_)
  apply forall_congr'
  intro c
  apply imp_congr_right
  intro _
  -- the listings are those of the rows that are shown
  have shown : ∀ (db : CategoryTables) (response : Except ReadError (List SubCategoryResponse)),
      (∃ rows, OrderBy (fun a b : String × Nat => b.2 ≤ a.2) (tagRows (itemTags db id)) rows ∧
        response = .ok (subcategories c.slug [] rows)) ↔
      ∃ o, OrderBy byCount ((tagRows (itemTags db id)).filter (shownRow c.slug)) o ∧
        response = .ok (o.map subCategoryResponse) := by
    intro db response
    have loop : ∀ {rows}, OrderBy byCount (tagRows (itemTags db id)) rows →
        subcategories c.slug [] rows =
          (rows.filter (shownRow c.slug)).map subCategoryResponse := by
      intro rows hrows
      apply subcategories_eq
      · rw [(hrows.perm.map Prod.fst).nodup_iff, tagRows_fst]
        exact List.nodup_dedup _
      · exact fun row _ => List.not_mem_nil
    constructor
    · rintro ⟨rows, hrows, rfl⟩
      exact ⟨_, hrows.filter (shownRow c.slug), congrArg Except.ok (loop hrows)⟩
    · rintro ⟨o, ho, rfl⟩
      obtain ⟨rows, hrows, rfl⟩ := OrderBy.extend _ ho
      exact ⟨rows, hrows, congrArg Except.ok (loop hrows).symm⟩
  have hinj : Function.Injective fun o : List (String × Nat) =>
      (Except.ok (o.map subCategoryResponse) : Except ReadError (List SubCategoryResponse)) :=
    fun o o' heq => List.map_injective_iff.2 subCategoryResponse_injective (Except.ok.inj heq)
  calc (∀ response, _ ↔ _)
      ↔ ∀ response, (∃ o, OrderBy byCount
            ((tagRows (itemTags db id)).filter (shownRow c.slug)) o ∧
            response = .ok (o.map subCategoryResponse)) ↔
          ∃ o, OrderBy byCount ((tagRows (itemTags db' id)).filter (shownRow c.slug)) o ∧
            response = .ok (o.map subCategoryResponse) :=
        forall_congr' fun response => iff_congr (shown db response) (shown db' response)
    _ ↔ _ := Query.answers_same_iff hinj
    _ ↔ _ := listings_same_iff
    _ ↔ _ := tagRows_perm_iff c.slug
    _ ↔ _ := by
      apply forall_congr'
      intro tag
      rw [h.tagCount_eq_iff]

/-! ### The list -/

/-- The same categories are listed in both. -/
lemma AgreeOutside.listed_perm (h : AgreeOutside B db db') (hAB : A ≠ B)
    (hB : B ≠ SYSTEM_TENANT_ID) (p : ListParams) :
    (db.categories.filter (listed A p)).Perm (db'.categories.filter (listed A p)) := by
  apply h.categories.filter_perm
  intro c hc
  simp only [listed, Bool.decide_and, Bool.and_eq_true, decide_eq_true_eq] at hc
  apply decide_eq_false
  rcases hc.1 with htenant | htenant
  · rw [htenant]
    exact hAB
  · rw [htenant]
    exact hB.symm

/-- The list reads the same exactly under its part of the condition. -/
lemma listCategories_same_iff (h : AgreeOutside B db db') (hAB : A ≠ B)
    (hB : B ≠ SYSTEM_TENANT_ID) (p : ListParams) :
    (∀ response, ListCategories collate db A p response ↔
        ListCategories collate db' A p response) ↔
      ∀ r, order collate p = .ok r →
        ∀ rows, OrderBy r (db.categories.filter (listed A p)) rows → ∀ c ∈ p.slice rows,
          (sourcesOf B db c.id).length = (sourcesOf B db' c.id).length := by
  have hperm := h.listed_perm hAB hB p
  unfold ListCategories
  cases order collate p with
  | error e => exact iff_of_true (fun _ => Iff.rfl) (fun _ hr => by cases hr)
  | ok r =>
    constructor
    · intro hall r' hr' rows hrows c hc
      cases hr'
      obtain ⟨rows', _, heq⟩ := (hall _).1 ⟨rows, hrows, rfl⟩
      -- the entry of the category is on the other page too
      have hdata : (p.slice rows).map (listEntry db A) = (p.slice rows').map (listEntry db' A) :=
        congrArg CategoryPage.data (Except.ok.inj heq)
      have hentry : listEntry db A c ∈ (p.slice rows').map (listEntry db' A) := by
        rw [← hdata]
        exact List.mem_map_of_mem hc
      obtain ⟨c', _, heq'⟩ := List.mem_map.1 hentry
      have hid : c'.id = c.id := congrArg CategoryResponse.id heq'
      have hcount : sourceCount db' c'.id = sourceCount db c.id :=
        congrArg CategoryResponse.sourceCount heq'
      rw [hid] at hcount
      exact (h.sourceCount_eq_iff c.id).1 hcount.symm
    · intro hshown response
      have hdata : ∀ rows, OrderBy r (db.categories.filter (listed A p)) rows →
          (p.slice rows).map (listEntry db A) = (p.slice rows).map (listEntry db' A) := by
        intro rows hrows
        apply List.map_congr_left
        intro c hc
        unfold listEntry
        rw [(h.sourceCount_eq_iff c.id).2 (hshown r rfl rows hrows c hc), h.colorOverrides_eq hAB]
      constructor
      · rintro ⟨rows, hrows, rfl⟩
        refine ⟨rows, hrows.of_perm hperm, ?_⟩
        rw [hdata rows hrows, hperm.length_eq]
      · rintro ⟨rows, hrows, rfl⟩
        have hrows' := hrows.of_perm hperm.symm
        refine ⟨rows, hrows', ?_⟩
        rw [hdata rows hrows', hperm.length_eq]

end

namespace Sample

/-- The predefined category that every tenant shares. -/
def shared : CategoryRow where
  id := "c0"
  tenantId := SYSTEM_TENANT_ID
  slug := "tech"
  type := "tech"
  refreshIntervalSeconds := 300
  keywordsFilter := []
  name := "Tech"
  description := none
  icon := none
  color := none
  prioritySort := false
  isActive := true
  createdAt := 0
  updatedAt := 0

/-- A source that the tenant `b` has put under it. -/
def theirs : SourceRow where
  id := "s1"
  tenantId := "b"
  categoryId := "c0"
  name := "Their feed"
  sourceType := "rss"
  url := "https://intranet.b/feed"
  config := []
  refreshIntervalSeconds := none
  isActive := true
  priority := 5
  health := some "healthy"

def noSources : CategoryTables where
  tenants := []
  categories := [shared]
  sources := []
  items := []

def withTheirs : CategoryTables :=
  { noSources with sources := [theirs] }

/-- The sample without sources is keyed. -/
lemma noSources_keyed : noSources.Keyed :=
  ⟨Table.unique_nil, List.nodup_singleton _⟩

/-- The sample with the other's source is keyed. -/
lemma withTheirs_keyed : withTheirs.Keyed :=
  ⟨Table.unique_nil, List.nodup_singleton _⟩

/-- The two samples agree outside the other tenant. -/
lemma agreeOutside : AgreeOutside "b" noSources withTheirs := by
  refine ⟨List.Perm.refl _, List.Perm.refl _, ?_, List.Perm.refl _⟩
  show ([] : List SourceRow).Perm ([theirs].filter fun s => !decide (s.tenantId = "b"))
  rw [List.filter_cons_of_neg (by decide)]
  exact List.Perm.refl _

end Sample

/-- On two states that differ in the rows of one other tenant, a request of a tenant is answered
alike exactly when what it shows of that tenant is the same. -/
theorem reads_same_iff {collate : String → String → Prop} {A B : String} {db db' : CategoryTables}
    (hk : db.Keyed) (hk' : db'.Keyed) (h : AgreeOutside B db db') (hAB : A ≠ B)
    (hB : B ≠ SYSTEM_TENANT_ID) (request : ReadRequest) :
    SameResponses collate db db' A request ↔ SameShown collate B db db' A request := by
  cases request with
  | listCategories p => exact listCategories_same_iff h hAB hB p
  | getCategory id => exact getCategory_same_iff hk hk' h hAB hB id
  | getCategoryWithSources id => exact getCategoryWithSources_same_iff hk hk' h hAB hB id
  | listSubcategories id => exact listSubcategories_same_iff hk hk' h hAB hB id

open Sample in
/-- The tags of the shared category, which has no items. -/
theorem reads_same_tags :
    SameResponses (· ≤ ·) noSources withTheirs "a" (.listSubcategories "c0") ↔
      SameShown (· ≤ ·) "b" noSources withTheirs "a" (.listSubcategories "c0") :=
  reads_same_iff noSources_keyed withTheirs_keyed agreeOutside (by decide) (by decide) _

open Sample in
/-- Another tenant's source changes the count of a shared category. -/
theorem reads_differ_in_count : ¬ ∀ (collate : String → String → Prop) (A B : String)
    (db db' : CategoryTables) (request : ReadRequest), db.Keyed → db'.Keyed →
      AgreeOutside B db db' → A ≠ B → B ≠ SYSTEM_TENANT_ID →
        SameResponses collate db db' A request := by
  intro h
  have hsame := h (· ≤ ·) "a" "b" noSources withTheirs (.getCategory "c0") noSources_keyed
    withTheirs_keyed agreeOutside (by decide) (by decide)
  have hshown := (getCategory_same_iff noSources_keyed withTheirs_keyed agreeOutside (by decide)
    (by decide) "c0").1 hsame
  have hcount := hshown.2 shared ⟨List.mem_singleton.2 rfl, rfl, .inr rfl⟩
  exact absurd hcount (by decide +kernel)

end InstantBoard.CategoryService
