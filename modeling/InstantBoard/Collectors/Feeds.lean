import InstantBoard.Collectors.HackerNews

/-!
# The RSS, arXiv and web scraping collectors

Each asks for one document and parses it with a library (`feedparser`, `ElementTree`, `BeautifulSoup`)
that is a parameter here; what the collectors make of its trees is spelled out.
-/

namespace InstantBoard

/-! ## RSS -/

/-- An entry of a feed: what its `get` knows, and the ISO text of `published_parsed` or
`updated_parsed`, where there is one, unless it makes no `datetime`. -/
structure FeedEntry where
  fields : Dict
  parsed : Option (Option String)

namespace RSSCollector

/-- `fetch_data` -/
def fetchData (source : Source) (up : Upstream) : Except String (Option Json) :=
  if source.url = "" then .ok none
  else match up 0 with
    | .timeout => .error "timeout"
    | .httpError => .error "HTTP error"
    | .raised message => .error message
    | .response status text _ =>
      if status ≠ 200 then .error ("HTTP " ++ toString status ++ " for " ++ source.url)
      else .ok (some (.str text))

section

variable (py : Stdlib) (now : String)

/-- `entry.get(key) or entry.get(key')` -/
def either (entry : FeedEntry) (key key' : String) (default : Json) : Json :=
  (entry.fields.getD key default).or (entry.fields.getD key' default)

/-- `_parse_feedparser_date`; an `OverflowError` gets out. -/
def parseFeedparserDate (entry : FeedEntry) : Except PyError String :=
  match entry.parsed.join with
  | some iso => .ok iso
  | none => do
    let published := (either entry "published" "updated" .null).or (.str "")
    if published.truthy = false then return now
    match py.fromisoformat (Text.replace (← published.strAttr "replace") "Z" "+00:00") with
    | some dt => dt.astimezoneIso
    | none => return now

/-- `item["summary"]` -/
def summary (entry : FeedEntry) (rule : Json) : Json :=
  let get key := entry.fields.getD key (.str "")
  let ruled :=
    if rule.isStr "summary" then get "summary"
    else if rule.isStr "description" then get "description"
    else if rule.isStr "comments_text" || rule.isStr "abstract" then
      (get "summary").or (get "description")
    else get "summary"
  if ruled.truthy then ruled else get "description"

/-- `entry.get(entry_key, "")` for any value. -/
def getAny (entry : FeedEntry) : Json → Except PyError Json
  | .str key => .ok (entry.fields.getD key (.str ""))
  | .arr _ => .error (.typeError "unhashable type: 'list'")
  | .obj _ => .error (.typeError "unhashable type: 'dict'")
  | .null | .bool _ | .int _ | .float _ _ => .ok (.str "")

/-- `extra_data` -/
def extraData (entry : FeedEntry) (rules : Dict) : Except PyError Dict :=
  rules.mapM fun rule => do return (rule.1, ← getAny entry rule.2)

/-- The first of some media whose type is an image. -/
def firstImage (key : String) : List Json → Except PyError (Option Json)
  | [] => .ok none
  | media :: rest => do
    let fields ← media.dictGet
    if Text.startsWith (← (fields.getD "type" (.str "")).strAttr "startswith") "image" then
      return some (fields.getD key (.str ""))
    firstImage key rest

/-- `for media in entry.get(list, [])`, where there are any. -/
def imageOf (entry : FeedEntry) (list key : String) : Except PyError (Option Json) := do
  let media := entry.fields.getD list .null
  if media.truthy = false then return none
  firstImage key (← TechService.iterate media)

/-- `image_url`, if it is set. -/
def imageUrl (entry : FeedEntry) : Except PyError (Option Json) := do
  let image ← imageOf entry "media_content" "url"
  if image.any (·.truthy) then return image
  return (← imageOf entry "enclosures" "href").or image

/-- A turn of the loop. -/
def entryItem (parseRules : Json) (entry : FeedEntry) : Except PyError Dict := do
  let get key := entry.fields.getD key (.str "")
  let publishedAt ← parseFeedparserDate py now entry
  let rules ← parseRules.dictGet
  let extra ← (rules.getD "extra" (.obj [])).dictGet
  let extraData ← extraData entry extra
  let image ← imageUrl entry
  return [("title", get "title"), ("url", get "link"), ("published_at", .str publishedAt),
    ("author", get "author"), ("summary", summary entry (rules.getD "summary" (.str "summary"))),
    ("extra_data", .obj extraData)] ++ (image.map fun url => ("image_url", url)).toList

/-- `parse_data`; `feedparser` may raise. -/
def parseData (feedparser : String → Option (List FeedEntry)) (source : Source) :
    Json → Except String (List Dict)
  | .str rawData =>
    if rawData = "" then .ok []
    else match feedparser rawData with
      | none => .ok []
      | some entries =>
        (entries.mapM (entryItem py now (source.config.getD "parse_rules" (.obj [])))).mapError
          PyError.message
  | .null | .bool _ | .int _ | .float _ _ | .arr _ | .obj _ => .ok []

end

end RSSCollector

/-! ## arXiv -/

inductive XmlElement where
  | element (tag : String) (attributes : List (String × String)) (text : Option String)
      (children : List XmlElement)

namespace XmlElement

def tag : XmlElement → String
  | element tag _ _ _ => tag

/-- `element.get(name, "")` -/
def get (name : String) : XmlElement → String
  | element _ attributes _ _ => (attributes.lookup name).getD ""

/-- `element.findall(tag)` -/
def findall (tag : String) : XmlElement → List XmlElement
  | element _ _ _ children => children.filter fun child => child.tag = tag

def find (tag : String) (e : XmlElement) : Option XmlElement :=
  (e.findall tag).head?

/-- `element.text.strip()` -/
def strippedText : XmlElement → Except PyError String
  | element _ _ (some text) _ => .ok (Text.strip text)
  | element _ _ none _ => .error (.attributeError "'NoneType' object has no attribute 'strip'")

/-- The stripped text of the first child with the tag, or `""`. -/
def childText (tag : String) (e : XmlElement) : Except PyError String :=
  match e.find tag with
  | some child => child.strippedText
  | none => .ok ""

end XmlElement

namespace ArxivCollector

/-- What `categories` of the query are taken from. -/
def categories (source : Source) : Json :=
  source.config.getD "categories" (.arr [.str "cs.AI"])

/-- `fetch_data`, which turns the failures of the client into `None`. -/
def fetchData (source : Source) (up : Upstream) : Except String (Option Json) :=
  match TechService.iterate (categories source) with
  | .error e => .error e.message
  | .ok _ =>
    match up 0 with
    | .timeout | .httpError => .ok none
    | .raised message => .error message
    | .response status text _ => if status ≠ 200 then .ok none else .ok (some (.str text))

/-- A name of the namespace `atom`. -/
def atom (name : String) : String := "\x7bhttp://www.w3.org/2005/Atom\x7d" ++ name

/-- A name of the namespace `arxiv`. -/
def arxiv (name : String) : String := "\x7bhttp://arxiv.org/schemas/atom\x7d" ++ name

/-- The names of the authors. -/
def authors (entry : XmlElement) : Except PyError (List String) :=
  ((entry.findall (atom "author")).filterMap (·.find (atom "name"))).mapM (·.strippedText)

/-- A turn of the loop. -/
def entryItem (entry : XmlElement) : Except PyError Dict := do
  let title ← entry.childText (atom "title")
  let summary ← entry.childText (atom "summary")
  let arxivUrl ← entry.childText (atom "id")
  let pdf := (entry.findall (atom "link")).find? fun link => link.get "title" = "pdf"
  let publishedAt ← entry.childText (atom "published")
  let updatedAt ← entry.childText (atom "updated")
  let authors ← authors entry
  let categories := ((entry.findall (atom "category")).map (·.get "term")).filter (· ≠ "")
  let primary := ((entry.find (arxiv "primary_category")).map (·.get "term")).getD ""
  let comments ← entry.childText (arxiv "comment")
  return [
    ("title", .str title),
    ("url", .str arxivUrl),
    ("summary", .str (String.ofList (summary.toList.take 500))),
    ("published_at", .str publishedAt),
    ("author", .str (", ".intercalate authors)),
    ("image_url", .str ""),
    ("extra_data", .obj [
      ("arxiv_id", .str ((Text.split arxivUrl '/').getLastD "")),
      ("pdf_url", .str ((pdf.map (·.get "href")).getD "")),
      ("authors", .arr (authors.map .str)),
      ("categories", .arr (categories.map .str)),
      ("primary_category", .str primary),
      ("updated_at", .str updatedAt),
      ("comments", .str comments)])]

/-- `parse_data`; a `ParseError` of the library makes no items. -/
def parseData (fromstring : String → Option XmlElement) : Json → Except String (List Dict)
  | .str rawData =>
    if rawData = "" then .ok []
    else match fromstring rawData with
      | none => .ok []
      | some root => ((root.findall (atom "entry")).mapM entryItem).mapError PyError.message
  | .null | .bool _ | .int _ | .float _ _ | .arr _ | .obj _ => .ok []

end ArxivCollector

/-! ## Web scraping -/

/-- `BeautifulSoup` over its nodes, with `urljoin`, the dates of `dateutil` and `int`. A selector that is
no selector raises. -/
structure Scraper where
  Node : Type
  /-- The root of a page, by one parser or the other. -/
  soup : String → Option Node
  select : Node → String → Except String (List Node)
  /-- `node.find(tag)` -/
  find : Node → String → Option Node
  /-- `node.find("a", href=True)` -/
  findLink : Node → Option Node
  name : Node → String
  /-- `str(node.get(attribute) or "")` -/
  get : Node → String → String
  /-- `node.get_text(" ", strip=True)` -/
  getText : Node → String
  urljoin : String → String → String
  /-- The ISO text of the date a text is. -/
  date : String → Option String
  /-- `int(v)` -/
  int : Json → Option Int
  /-- `s.lower()` -/
  lower : String → String

namespace WebScrapeCollector

def DEFAULT_LIMIT : Int := 20

def MAX_LIMIT : Int := 100

def SUMMARY_MAX_CHARS : Nat := 300

def HEADING_TAGS : List String := ["h1", "h2", "h3", "h4"]

def IGNORED_LINK_SCHEMES : List String := ["javascript:", "mailto:", "tel:"]

/-- The answers that count as "nothing this cycle". -/
def Blocked (o : HttpOutcome) : Prop :=
  o.HasStatus 403 ∨ o.HasStatus 429

instance : DecidablePred Blocked := fun _ => inferInstanceAs (Decidable (_ ∨ _))

/-- `fetch_data` -/
def fetchData (source : Source) (up : Upstream) : Except String (Option Json) :=
  if source.url = "" then .ok none
  else match up 0 with
    | .timeout => .error "timeout"
    | .httpError => .error "HTTP error"
    | .raised message => .error message
    | .response status text _ =>
      if status = 403 ∨ status = 429 then .ok (some (.arr []))
      else if status ≠ 200 then .error ("HTTP " ++ toString status ++ " for " ++ source.url)
      else .ok (some (.str text))

section

variable (py : Stdlib) (lib : Scraper) (now : String)

/-- `_clean_text` -/
def cleanText (node : lib.Node) : String :=
  " ".intercalate
    (((lib.getText node).toList.splitOnP Text.isSpace).filter (· ≠ []) |>.map String.ofList)

/-- `str(rules.get(key) or "").strip()` -/
def rule (rules : Dict) (key : String) : String :=
  Text.strip (((rules.getD key .null).or (.str "")).format py)

/-- `node.select_one(selector)`, if there is a selector. -/
def selectOne (node : lib.Node) (selector : String) : Except String (Option lib.Node) :=
  if selector = "" then .ok none
  else (lib.select node selector).map List.head?

/-- `_extract_title` -/
def extractTitle (container : lib.Node) (titleSelector : String) : Except String String := do
  let node ← selectOne lib container titleSelector
  match node.or (HEADING_TAGS.findSome? (lib.find container)) with
  | some node => return cleanText lib node
  | none => return ""

/-- `_extract_url` -/
def extractUrl (container : lib.Node) (linkSelector baseUrl : String) : Except String String := do
  let selected ← selectOne lib container linkSelector
  let own := if lib.name container = "a" ∧ lib.get container "href" ≠ "" then some container else none
  let node := (selected.or own).or (lib.findLink container)
  let href := Text.strip ((node.map fun node => lib.get node "href").getD "")
  if href = "" ∨ href = "#" ∨ ∃ scheme ∈ IGNORED_LINK_SCHEMES, Text.startsWith (lib.lower href) scheme
  then return ""
  else return lib.urljoin baseUrl href

/-- `_extract_date` -/
def extractDate (container : lib.Node) (dateSelector : String) : Except String String := do
  let raw := match ← selectOne lib container dateSelector with
    | some node =>
      let datetime := Text.strip (lib.get node "datetime")
      if datetime ≠ "" then datetime else cleanText lib node
    | none => ""
  if raw = "" then return now
  return (lib.date raw).getD now

/-- The selectors and the limit of `parse_rules`. -/
structure Rules where
  item : String
  title : String
  link : String
  summary : String
  date : String
  limit : Nat

def rulesOf (config : Dict) : Rules :=
  let rules : Dict := match config.getD "parse_rules" .null with
    | .obj rules => rules
    | .null | .bool _ | .int _ | .float _ _ | .str _ | .arr _ => []
  let limit := (lib.int ((rules.getD "limit" .null).or (.int DEFAULT_LIMIT))).getD DEFAULT_LIMIT
  { item := rule py rules "item_selector"
    title := rule py rules "title_selector"
    link := rule py rules "link_selector"
    summary := rule py rules "summary_selector"
    date := rule py rules "date_selector"
    limit := (max 1 (min limit MAX_LIMIT)).toNat }

/-- The item of a container, unless it has no title or no URL. -/
def containerItem (rules : Rules) (baseUrl : String) (container : lib.Node) :
    Except String (Option Dict) := do
  let title ← if rules.item = "" then pure (cleanText lib container)
    else extractTitle lib container rules.title
  if title = "" then return none
  let url ← extractUrl lib container rules.link baseUrl
  if url = "" then return none
  let summaryNode ← selectOne lib container rules.summary
  let summary := (summaryNode.map fun node =>
    String.ofList ((cleanText lib node).toList.take SUMMARY_MAX_CHARS)).getD ""
  let publishedAt ← extractDate lib now container rules.date
  return some [
    ("title", .str title), ("url", .str url), ("summary", .str summary),
    ("published_at", .str publishedAt),
    ("extra_data", .obj [("scraped_url", .str baseUrl), ("scraped_at", .str now)])]

/-- The loop, which ends at `limit` items. -/
def scrape (rules : Rules) (baseUrl : String) : List lib.Node → List Dict →
    Except String (List Dict)
  | [], items => .ok items
  | container :: containers, items =>
    if rules.limit ≤ items.length then .ok items
    else do
      match ← containerItem lib now rules baseUrl container with
      | some item => scrape rules baseUrl containers (items ++ [item])
      | none => scrape rules baseUrl containers items

/-- `parse_data` -/
def parseData (source : Source) : Json → Except String (List Dict)
  | .str rawData =>
    if rawData = "" then .ok []
    else match lib.soup rawData with
      | none => .ok []
      | some soup =>
        let rules := rulesOf py lib source.config
        if rules.item = "" ∧ rules.title = "" then .ok []
        else do
          let containers ← lib.select soup (if rules.item = "" then rules.title else rules.item)
          scrape lib now rules source.url containers []
  | .null | .bool _ | .int _ | .float _ _ | .arr _ | .obj _ => .ok []

end

end WebScrapeCollector

section

variable (py : Stdlib) (now : String)

/-- `RSSCollector` -/
def rssCollector (feedparser : String → Option (List FeedEntry)) : Collector where
  maxRetries := 3
  rateLimitPerMinute := 0
  fetchData := RSSCollector.fetchData
  parseData := RSSCollector.parseData py now feedparser
  validateData := Collector.requireTitleAndUrl

/-- `ArxivCollector` -/
def arxivCollector (fromstring : String → Option XmlElement) : Collector where
  maxRetries := 3
  rateLimitPerMinute := 10
  fetchData := ArxivCollector.fetchData
  parseData _ := ArxivCollector.parseData fromstring
  validateData := Collector.requireTitleAndUrl

/-- `WebScrapeCollector` -/
def webScrapeCollector (lib : Scraper) : Collector where
  maxRetries := 3
  rateLimitPerMinute := 5
  fetchData := WebScrapeCollector.fetchData
  parseData := WebScrapeCollector.parseData py lib now
  validateData := Collector.requireTitleAndUrl

end

end InstantBoard
