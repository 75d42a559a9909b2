import InstantBoard.Models
import InstantBoard.Python.Stdlib

/-!
# Category administration

`CategoryService.create_category`: its checks in the order of the source and the row it writes. The
slug is whatever the request says, or made from the name; nothing restricts it.
-/

namespace InstantBoard.CategoryService

/-- The exceptions the service raises, and the one of `scalar_one_or_none` on two rows. -/
inductive CategoryError where
  | validationError (message : String) (details : List (String × String))
  | duplicateCategory (message : String)
  | multipleResultsFound
  deriving DecidableEq

/-- The body of `POST /categories`, as far as the rows here have it. -/
structure CategoryCreate where
  name : String
  slug : Option String
  type : String
  refreshIntervalSeconds : Int
  keywordsFilter : Option (List String)

/-- `re.sub` of every run of characters with `p` by one `c`; the flag says whether a run goes on. -/
def squeeze (p : Char → Bool) (c : Char) : Bool → List Char → List Char
  | _, [] => []
  | running, d :: s =>
    if p d then if running then squeeze p c true s else c :: squeeze p c true s
    else d :: squeeze p c false s

/-- `_slugify`; `isalnum` is `str.isalnum` of one character. -/
def slugify (py : Stdlib) (isalnum : Char → Bool) (name : String) : String :=
  let slug := (Text.strip (py.lower name)).toList
  let slug := slug.filter fun c => isalnum c || c = '_' || Text.isSpace c || c = '-'
  let slug := squeeze (fun c => Text.isSpace c || c = '_') '-' false slug
  let slug := squeeze (· = '-') '-' false slug
  String.ofList ((slug.dropWhile (· = '-')).rdropWhile (· = '-'))

/-- `data.slug or _slugify(data.name)`. -/
def CategoryCreate.effectiveSlug (py : Stdlib) (isalnum : Char → Bool) (data : CategoryCreate) :
    String :=
  match data.slug.filter (· ≠ "") with
  | some slug => slug
  | none => slugify py isalnum data.name

/-- `create_category`; `maxCategories` is the tenant's `max_categories` and `id` the key the flush
gives the row. -/
def createCategory (py : Stdlib) (isalnum : Char → Bool) (db : Tables) (maxCategories : Nat)
    (data : CategoryCreate) (tenantId id : String) : Except CategoryError (Tables × Category) :=
  match db.tenant? tenantId with
  | none => .error (.validationError "Tenant not found" [])
  | some _ =>
    let currentCount := (db.categories.filter (·.tenantId == tenantId)).length
    if maxCategories ≤ currentCount then
      .error (.validationError ("Category limit reached (max " ++ toString maxCategories ++ ")")
        [("name", "Tenant already has " ++ toString currentCount ++ " categories (max "
          ++ toString maxCategories ++ ")")])
    else
      let slug := data.effectiveSlug py isalnum
      match db.categories.filter fun c =>
        (c.tenantId == tenantId || c.tenantId == SYSTEM_TENANT_ID) && c.slug == slug with
      | [] =>
        let category : Category :=
          { id, tenantId, slug, type := data.type,
            refreshIntervalSeconds := data.refreshIntervalSeconds,
            keywordsFilter := data.keywordsFilter.getD [] }
        .ok ({ db with categories := db.categories ++ [category] }, category)
      | [_] => .error (.duplicateCategory ("Category with slug '" ++ slug ++ "' already exists"))
      | _ => .error .multipleResultsFound

end InstantBoard.CategoryService
