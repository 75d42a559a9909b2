import InstantBoard.Lib.Query
import InstantBoard.Lib.Table
import InstantBoard.Services.Category
import Mathlib.Data.List.Dedup

/-!
# Reading categories

The four reads of `CategoryService`: the list of categories with their source counts, one category,
one with its sources, and the tags of its items. What a read answers is a relation, because the
ORDER BY of three of them leaves ties open. A request sees the categories of its own tenant and of
the system tenant; the counts, sources and items under them are selected by the category alone.
-/

namespace InstantBoard.CategoryService

open Query

/-! ## Rows -/

structure TenantRow extends Tenant where
  maxCategories : Nat
  settings : Dict

structure CategoryRow extends Category where
  name : String
  description : Option String
  icon : Option String
  color : Option String
  prioritySort : Bool
  isActive : Bool
  createdAt : Int
  updatedAt : Int

/-- A source with the status in its row of `source_health`, which goes with it. -/
structure SourceRow extends Source where
  health : Option String

/-- What the reads use of an item. -/
structure ItemRow where
  tenantId : String
  categoryId : String
  topicTags : List String

structure CategoryTables where
  tenants : List TenantRow
  categories : List CategoryRow
  sources : List SourceRow
  items : List ItemRow

/-- The primary keys. -/
structure CategoryTables.Keyed (db : CategoryTables) : Prop where
  tenants : Table.Unique (fun t : TenantRow => t.id) db.tenants
  categories : Table.Unique (fun c : CategoryRow => c.id) db.categories

/-! ## Responses -/

structure CategoryResponse where
  id : String
  name : String
  slug : String
  description : Option String
  icon : String
  color : String
  type : String
  refreshIntervalSeconds : Int
  isActive : Bool
  sourceCount : Nat
  createdAt : Int
  updatedAt : Int
deriving DecidableEq

structure SourceEntry where
  id : String
  name : String
  sourceType : String
  url : String
  isActive : Bool
  priority : Int
  healthStatus : Option String
  refreshIntervalSeconds : Option Int

structure CategoryWithSourcesResponse where
  category : CategoryResponse
  sources : List SourceEntry

structure SubCategoryResponse where
  tag : String
  label : String
  count : Nat

/-- A page and its meta. -/
structure CategoryPage where
  data : List CategoryResponse
  total : Nat
  page : Nat
  pageSize : Nat

/-- The exceptions of the reads. -/
inductive ReadError where
  | categoryNotFound (message : String)
  | validationError (message : String) (details : List (String × String))
  | multipleResultsFound
deriving DecidableEq

/-! ## One category -/

/-- `extract_overrides`, the colours. -/
def extractColorOverrides (settings : Dict) : List (String × String) :=
  match settings.get? "color_overrides" with
  | some (.obj fields) => fields.filterMap fun (slug, value) =>
    match value with
    | .str color => some (slug, color)
    | _ => none
  | _ => []

/-- `_get_color_overrides`; settings that cannot be read are `{}`. -/
def colorOverrides (db : CategoryTables) (tenantId : String) : List (String × String) :=
  match Table.scalarOneOrNone (db.tenants.filter (·.id = tenantId)) with
  | .ok (some tenant) => extractColorOverrides tenant.settings
  | .ok none | .error _ => []

/-- `s or default` -/
def orDefault (s : Option String) (default : String) : String :=
  (s.filter (· ≠ "")).getD default

/-- `_category_to_response` -/
def categoryToResponse (category : CategoryRow) (sourceCount : Nat)
    (colorOverrides : List (String × String)) : CategoryResponse where
  id := category.id
  name := category.name
  slug := category.slug
  description := category.description
  icon := orDefault category.icon "folder"
  color := orDefault (colorOverrides.lookup category.slug) (orDefault category.color "#3B82F6")
  type := category.type
  refreshIntervalSeconds := category.refreshIntervalSeconds
  isActive := category.isActive
  sourceCount
  createdAt := category.createdAt
  updatedAt := category.updatedAt

/-- The category with the id, when the tenant may see it. -/
def findAccessible (db : CategoryTables) (categoryId tenantId : String) :
    Except ReadError CategoryRow :=
  match Table.scalarOneOrNone (db.categories.filter (·.id = categoryId)) with
  | .error _ => .error .multipleResultsFound
  | .ok none => .error (.categoryNotFound "Category not found")
  | .ok (some category) =>
    if category.tenantId ≠ tenantId ∧ category.tenantId ≠ SYSTEM_TENANT_ID then
      .error (.categoryNotFound "Category not accessible for this tenant")
    else .ok category

/-- `count(*)` of the sources under the category, whoever owns them. -/
def sourceCount (db : CategoryTables) (categoryId : String) : Nat :=
  (db.sources.filter (·.categoryId = categoryId)).length

/-- `get_category` -/
def getCategory (db : CategoryTables) (categoryId tenantId : String) :
    Except ReadError CategoryResponse :=
  (findAccessible db categoryId tenantId).map fun category =>
    categoryToResponse category (sourceCount db categoryId) (colorOverrides db tenantId)

/-! ## A category with its sources -/

def SourceRow.entry (src : SourceRow) : SourceEntry where
  id := src.id
  name := src.name
  sourceType := src.sourceType
  url := src.url
  isActive := src.isActive
  priority := src.priority
  healthStatus := src.health
  refreshIntervalSeconds := src.refreshIntervalSeconds

/-- The body of the response, from the sources in the order of the query; the colour is the stored
one. -/
def withSources (category : CategoryRow) (sources : List SourceEntry) :
    CategoryWithSourcesResponse where
  category := categoryToResponse category sources.length []
  sources

/-- `get_category_with_sources`, ordered by priority. -/
def GetCategoryWithSources (db : CategoryTables) (categoryId tenantId : String)
    (response : Except ReadError CategoryWithSourcesResponse) : Prop :=
  match findAccessible db categoryId tenantId with
  | .error e => response = .error e
  | .ok category => ∃ sources,
      OrderBy (fun a b : SourceRow => a.priority ≤ b.priority)
        (db.sources.filter (·.categoryId = categoryId)) sources ∧
      response = .ok (withSources category (sources.map SourceRow.entry))

/-! ## The tags of a category -/

/-- The level-two tags of `finance` and `tech`. -/
def FINANCE_SUBCATEGORIES : List String :=
  ["china-stock", "watchlist", "search", "market-indices", "commodities", "fund-nav"]

def TECH_SUBCATEGORIES : List String :=
  ["humanoid", "industrial", "cobot", "autonomous-driving", "drone", "robot-software", "llm",
    "generative-ai", "ai-hardware", "ai-ethics", "multimodal", "ai-agent", "iot-edge", "risc-v",
    "rtos", "fpga", "chip-design", "embedded-ai", "commercial-space", "satellite-internet",
    "deep-space", "orbital", "rocket-tech", "space-manufacturing"]

def SUBCATEGORY_LABEL_MAP : List (String × String) :=
  [("china-stock", "A股行情"),
   ("watchlist", "自选关注"),
   ("search", "股票/基金搜索"),
   ("market-indices", "世界市场指数"),
   ("commodities", "大宗商品/期货"),
   ("fund-nav", "基金NAV估值"),
   ("humanoid", "人形机器人"),
   ("industrial", "工业机器人"),
   ("cobot", "协作机器人"),
   ("autonomous-driving", "自动驾驶"),
   ("drone", "无人机"),
   ("robot-software", "机器人OS/软件"),
   ("llm", "大语言模型"),
   ("generative-ai", "生成式AI"),
   ("ai-hardware", "AI芯片/硬件"),
   ("ai-ethics", "AI伦理与治理"),
   ("multimodal", "多模态AI"),
   ("ai-agent", "AI Agent/应用"),
   ("iot-edge", "IoT与边缘计算"),
   ("risc-v", "RISC-V与处理器"),
   ("rtos", "实时操作系统"),
   ("fpga", "FPGA与硬件加速"),
   ("chip-design", "芯片设计"),
   ("embedded-ai", "嵌入式AI"),
   ("commercial-space", "商业航天"),
   ("satellite-internet", "卫星互联网"),
   ("deep-space", "深空探测"),
   ("orbital", "空间站与在轨服务"),
   ("rocket-tech", "火箭技术"),
   ("space-manufacturing", "太空制造与资源")]

/-- `is_l2` -/
def isL2 (slug tag : String) : Bool :=
  (slug = "finance" ∧ tag ∈ FINANCE_SUBCATEGORIES) ∨ (slug = "tech" ∧ tag ∈ TECH_SUBCATEGORIES) ∨
    (slug ≠ "finance" ∧ slug ≠ "tech")

/-- The tags of level one, left out. -/
def isLevel1 (slug tag : String) : Bool :=
  tag ∈ [slug, "finance", "tech", "robotics", "ai", "embedded", "space"]

def subCategoryResponse (row : String × Nat) : SubCategoryResponse where
  tag := row.1
  label := (SUBCATEGORY_LABEL_MAP.lookup row.1).getD row.1
  count := row.2

/-- The loop over the tag rows, with the tags seen. -/
def subcategories (slug : String) : List String → List (String × Nat) → List SubCategoryResponse
  | _, [] => []
  | seen, (tag, count) :: rows =>
    if tag ∈ seen then subcategories slug seen rows
    else if isLevel1 slug tag then subcategories slug (tag :: seen) rows
    else if isL2 slug tag then
      subCategoryResponse (tag, count) :: subcategories slug (tag :: seen) rows
    else subcategories slug (tag :: seen) rows

/-- The tags of the items under the category, whoever owns them. -/
def itemTags (db : CategoryTables) (categoryId : String) : List String :=
  (db.items.filter (·.categoryId = categoryId)).flatMap (·.topicTags)

/-- `GROUP BY tag` with the counts. -/
def tagRows (tags : List String) : List (String × Nat) :=
  tags.dedup.map fun tag => (tag, tags.count tag)

/-- `list_subcategories`, ordered by the counts. -/
def ListSubcategories (db : CategoryTables) (categoryId tenantId : String)
    (response : Except ReadError (List SubCategoryResponse)) : Prop :=
  match findAccessible db categoryId tenantId with
  | .error e => response = .error e
  | .ok category => ∃ rows,
      OrderBy (fun a b : String × Nat => b.2 ≤ a.2) (tagRows (itemTags db categoryId)) rows ∧
      response = .ok (subcategories category.slug [] rows)

/-! ## The list of categories -/

structure ListParams where
  typeFilter : Option String
  page : Nat
  pageSize : Nat
  sortBy : Option String
  sortOrder : String
  /-- `PaginationParams` -/
  pos : 1 ≤ page

section

-- the order of texts in the database's collation
variable (collate : String → String → Prop)

/-- A column of `CATEGORY_SORT_FIELDS`. -/
def column (sortBy : String) (a b : CategoryRow) : Prop :=
  if sortBy = "name" then collate a.name b.name
  else if sortBy = "created_at" then a.createdAt ≤ b.createdAt
  else collate a.type b.type

/-- `apply_sort`, or the order by type and then by name. -/
def order (p : ListParams) : Except ReadError (CategoryRow → CategoryRow → Prop) :=
  match p.sortBy with
  | none => .ok fun a b =>
      collate a.type b.type ∧ (collate b.type a.type → collate a.name b.name)
  | some sortBy =>
    if sortBy ∉ ["name", "created_at", "type"] then
      .error (.validationError
        ("Invalid sort_by value '" ++ sortBy ++ "'. Allowed fields: created_at, name, type")
        [("sort_by", "Must be one of: created_at, name, type")])
    else if p.sortOrder.toLower ∉ ["asc", "desc"] then
      .error (.validationError
        ("Invalid sort_order value '" ++ p.sortOrder ++ "'. Must be 'asc' or 'desc'")
        [("sort_order", "Must be 'asc' or 'desc'")])
    else if p.sortOrder.toLower = "asc" then .ok (column collate sortBy)
    else .ok fun a b => column collate sortBy b a

/-- The `WHERE` of the list. -/
def listed (tenantId : String) (p : ListParams) (c : CategoryRow) : Bool :=
  (c.tenantId = tenantId ∨ c.tenantId = SYSTEM_TENANT_ID) ∧
    (p.typeFilter.filter (· ≠ "")).all (· = c.type)

/-- `OFFSET` and `LIMIT`. -/
def ListParams.slice {α : Type} (p : ListParams) (rows : List α) : List α :=
  (rows.drop ((p.page - 1) * p.pageSize)).take p.pageSize

/-- The entry of a category on the page. -/
def listEntry (db : CategoryTables) (tenantId : String) (c : CategoryRow) : CategoryResponse :=
  categoryToResponse c (sourceCount db c.id) (colorOverrides db tenantId)

/-- `list_categories` -/
def ListCategories (db : CategoryTables) (tenantId : String) (p : ListParams)
    (response : Except ReadError CategoryPage) : Prop :=
  match order collate p with
  | .error e => response = .error e
  | .ok r => ∃ rows, OrderBy r (db.categories.filter (listed tenantId p)) rows ∧
      response = .ok
        { data := (p.slice rows).map (listEntry db tenantId)
          total := (db.categories.filter (listed tenantId p)).length
          page := p.page
          pageSize := p.pageSize }

end

end InstantBoard.CategoryService
