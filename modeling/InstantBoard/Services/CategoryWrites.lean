import InstantBoard.Columns
import InstantBoard.Lib.Transition
import InstantBoard.Services.CategoryReads

/-!
# Writing categories

`create_category`, `update_category` and `delete_category` with the flush of the row they write. The
rows of the system tenant can be added to but neither changed nor deleted. `Effect` lists what a
write that succeeds does to the table.
-/

namespace InstantBoard

deriving instance DecidableEq for Category

namespace CategoryService

open Transition

deriving instance DecidableEq for CategoryRow

/-! ## Requests -/

/-- The body of `POST /categories`. -/
structure CategoryBody extends CategoryCreate where
  description : Option String
  icon : Option String
  color : Option String
  isActive : Bool

/-- The fields of `PUT /categories/{id}` that are set and not `None`. -/
structure CategoryUpdate where
  name : Option String
  slug : Option String
  description : Option String
  icon : Option String
  color : Option String
  type : Option String
  refreshIntervalSeconds : Option Int
  keywordsFilter : Option (List String)
  prioritySort : Option Bool
  isActive : Option Bool

inductive WriteError where
  | refused (e : CategoryError)
  | categoryNotFound (message : String)
  | forbidden (message : String)
  | db (e : DbError)
deriving DecidableEq

/-! ## The table's constraints -/

/-- The values fit their columns. -/
def CategoryRow.fits (c : CategoryRow) : Bool :=
  varchar 50 c.name && varchar 50 c.slug && c.description.all (varchar 200) &&
    c.icon.all (varchar 50) && c.color.all (varchar 7) && varchar 20 c.type &&
    c.keywordsFilter.all storable && decide (c.refreshIntervalSeconds ≤ 2 ^ 31 - 1)

/-- `chk_categories_type` -/
def CategoryRow.checked (c : CategoryRow) : Bool :=
  decide (c.type ∈ ["finance", "tech", "news", "custom"])

namespace CategoryTables

/-- `uq_categories_tenant_slug`: no other row of the tenant has the slug. -/
def FreeFor (db : CategoryTables) (c : CategoryRow) : Prop :=
  ∀ r ∈ db.categories, r.id ≠ c.id → (r.tenantId, r.slug) ≠ (c.tenantId, c.slug)

instance (db : CategoryTables) (c : CategoryRow) : Decidable (db.FreeFor c) :=
  inferInstanceAs (Decidable (∀ r ∈ db.categories, _ → _))

/-- The flush of a new row. -/
def insert (db : CategoryTables) (c : CategoryRow) : Except DbError CategoryTables :=
  flushRow c.fits (c.checked = true ∧ db.FreeFor c ∧ (∀ r ∈ db.categories, r.id ≠ c.id) ∧
    ∃ t ∈ db.tenants, t.id = c.tenantId) { db with categories := db.categories ++ [c] }

/-- The flush of a changed row. -/
def update (db : CategoryTables) (c : CategoryRow) : Except DbError CategoryTables :=
  flushRow c.fits (c.checked = true ∧ db.FreeFor c)
    { db with categories := Table.replace (·.id) c db.categories }

/-- The flush of a deleted row; its items go with it, and it has no sources. -/
def delete (db : CategoryTables) (id : String) : CategoryTables :=
  { db with
    categories := db.categories.filter (·.id ≠ id)
    items := db.items.filter (·.categoryId ≠ id) }

/-- The columns that `create_category` reads. -/
def tables (db : CategoryTables) : Tables where
  tenants := db.tenants.map TenantRow.toTenant
  categories := db.categories.map CategoryRow.toCategory
  sources := db.sources.map SourceRow.toSource

def maxCategories (db : CategoryTables) (tenantId : String) : Nat :=
  ((db.tenants.find? (·.id = tenantId)).map (·.maxCategories)).getD 0

end CategoryTables

/-! ## The writes -/

/-- The row of a new category, with its other columns. -/
def CategoryBody.row (data : CategoryBody) (category : Category) (now : Int) : CategoryRow where
  toCategory := category
  name := data.name
  description := data.description
  icon := orDefault data.icon "folder"
  color := orDefault data.color "#3B82F6"
  prioritySort := false
  isActive := data.isActive
  createdAt := now
  updatedAt := now

/-- `create_category`: the checks and the columns of `createCategory`, then the flush. -/
def create (py : Stdlib) (isalnum : Char → Bool) (db : CategoryTables) (now : Int)
    (data : CategoryBody) (tenantId id : String) :
    Except WriteError (CategoryResponse × CategoryTables) := do
  let (_, category) ← (createCategory py isalnum db.tables (db.maxCategories tenantId)
    data.toCategoryCreate tenantId id).mapError .refused
  let row := data.row category now
  let db' ← (db.insert row).mapError .db
  return (categoryToResponse row 0 [], db')

/-- The row with the fields that are set. -/
def CategoryUpdate.apply (data : CategoryUpdate) (c : CategoryRow) : CategoryRow :=
  { c with
    name := data.name.getD c.name
    slug := data.slug.getD c.slug
    description := data.description.or c.description
    icon := data.icon.or c.icon
    color := data.color.or c.color
    type := data.type.getD c.type
    refreshIntervalSeconds := data.refreshIntervalSeconds.getD c.refreshIntervalSeconds
    keywordsFilter := data.keywordsFilter.getD c.keywordsFilter
    prioritySort := data.prioritySort.getD c.prioritySort
    isActive := data.isActive.getD c.isActive }

/-- `onupdate` writes the clock when a column has changed. -/
def CategoryRow.touch (c old : CategoryRow) (now : Int) : CategoryRow :=
  if c = old then c else { c with updatedAt := now }

/-- The rows that a slug of the tenant must not meet. -/
def clashes (tenantId slug : String) (c : CategoryRow) : Bool :=
  (c.tenantId = tenantId ∨ c.tenantId = SYSTEM_TENANT_ID) ∧ c.slug = slug

/-- The check of a new slug; an empty one is not checked. -/
def checkSlug (db : CategoryTables) (categoryId tenantId : String) (slug : Option String) :
    Except WriteError Unit :=
  match slug.filter (· ≠ "") with
  | none => .ok ()
  | some slug =>
    match scalarOneOrNone (db.categories.filter fun c => clashes tenantId slug c && c.id ≠ categoryId) with
    | .error e => .error (.db e)
    | .ok none => .ok ()
    | .ok (some _) =>
      .error (.refused (.duplicateCategory ("Category with slug '" ++ slug ++ "' already exists")))

/-- The category of a write, when it is the tenant's own. -/
def findOwn (db : CategoryTables) (categoryId tenantId verb : String) :
    Except WriteError CategoryRow :=
  match scalarOneOrNone (db.categories.filter (·.id = categoryId)) with
  | .error e => .error (.db e)
  | .ok none => .error (.categoryNotFound "Category not found")
  | .ok (some category) =>
    if category.tenantId = SYSTEM_TENANT_ID then
      .error (.forbidden ("Cannot " ++ verb ++ " predefined system categories"))
    else if category.tenantId ≠ tenantId then
      .error (.forbidden ("Cannot " ++ verb ++ " categories from other tenants"))
    else .ok category

/-- `update_category` -/
def updateCategory (db : CategoryTables) (now : Int) (categoryId : String) (data : CategoryUpdate)
    (tenantId : String) : Except WriteError (CategoryResponse × CategoryTables) := do
  let category ← findOwn db categoryId tenantId "modify"
  checkSlug db categoryId tenantId data.slug
  let row := (data.apply category).touch category now
  let db' ← (db.update row).mapError .db
  return (categoryToResponse row (sourceCount db' categoryId) [], db')

/-- `delete_category` -/
def deleteCategory (db : CategoryTables) (categoryId tenantId : String) :
    Except WriteError CategoryTables := do
  let category ← findOwn db categoryId tenantId "delete"
  if 0 < sourceCount db categoryId then
    throw (.refused (.validationError
      ("Category has " ++ toString (sourceCount db categoryId) ++
        " active sources. Remove sources before deleting the category.")
      [("category_id", "Category '" ++ category.name ++ "' has " ++
        toString (sourceCount db categoryId) ++ " sources")]))
  return db.delete categoryId

end CategoryService

end InstantBoard
