import InstantBoard.Collectors.Http
import InstantBoard.Python.Stdlib
import Mathlib.Data.List.ReduceOption

/-!
# The HackerNews collector

The ranking is one request and each of its first thirty stories another. A request that fails leaves
its story out, and a ranking that is not answered counts as an empty one. One entry that cannot be
parsed makes `parse_data` raise, and the others are lost with it.
-/

namespace InstantBoard

/-- `float(text)` and `datetime.fromtimestamp(t, tz=UTC).isoformat()`. -/
structure Timestamps where
  float : String → Option ℚ
  isoformat : ℚ → Except PyError String

/-- `datetime.fromtimestamp(v, tz=UTC).isoformat()` -/
def Timestamps.ofJson (ts : Timestamps) : Json → Except PyError String
  | .bool b => ts.isoformat (if b then 1 else 0)
  | .int i => ts.isoformat i
  | .float value _ => ts.isoformat value
  | v => .error (.typeError ("'" ++ v.typeName ++ "' object cannot be interpreted as an integer"))

namespace HackerNewsCollector

def MAX_ITEMS : Nat := 30

/-! ## Fetching -/

/-- `_fetch_story_ids` -/
def fetchStoryIds (up : Upstream) : Except String Json :=
  match up 0 with
  | .timeout | .httpError => .ok (.arr [])
  | .raised message => .error message
  | .response status _ json => if status ≠ 200 then .ok (.arr []) else json

/-- `story_ids[:n]`, where that does not raise. -/
def slice (n : Nat) : Json → Option (List Json)
  | .arr items => some (items.take n)
  | .str s => some ((s.toList.take n).map fun c => .str c.toString)
  | .null | .bool _ | .int _ | .float _ _ | .obj _ => none

/-- The answer for one item. -/
def itemAnswer : HttpOutcome → Option Json
  | .response status _ (.ok hnItem) => if status = 200 ∧ hnItem.truthy then some hnItem else none
  | .response _ _ (.error _) | .timeout | .httpError | .raised _ => none

/-- `_fetch_items_batch` -/
def fetchItemsBatch (up : Upstream) (itemIds : List Json) : List Json :=
  (List.range itemIds.length).filterMap fun k => itemAnswer (up (k + 1))

/-- `fetch_data`, which turns its exceptions into `None`. -/
def fetchData (up : Upstream) : Except String (Option Json) :=
  match fetchStoryIds up with
  | .error _ => .ok none
  | .ok storyIds =>
    if storyIds.truthy = false then .ok (some (.arr []))
    else .ok ((slice MAX_ITEMS storyIds).map fun limitedIds => .arr (fetchItemsBatch up limitedIds))

/-! ## Parsing -/

section

variable (py : Stdlib) (ts : Timestamps)

/-- `_query_keywords` -/
def queryKeywords (config : Dict) : List String :=
  let raw := Text.strip (((config.getD "query" (.str "")).or (.str "")).format py)
  let words := (Text.replace (Text.replace raw "+" " ") "," " ").toList.splitOnP Text.isSpace
  (words.filter (· ≠ [])).map fun word => py.lower (String.ofList word)

def isWordChar (c : Char) : Bool :=
  ('a' ≤ c && c ≤ 'z') || ('0' ≤ c && c ≤ '9')

/-- `re.search(rf"(?<![a-z0-9]){re.escape(kw)}(?![a-z0-9])", text)`, from a place with the character
`before` it. -/
def hasWord (kw : List Char) : Option Char → List Char → Bool
  | before, [] => kw.isEmpty && !before.any isWordChar
  | before, c :: text =>
    (kw.isPrefixOf (c :: text) && !before.any isWordChar &&
      !((c :: text).drop kw.length).head?.any isWordChar) || hasWord kw (some c) text

/-- `_matches_keywords` -/
def matchesKeywords (title : Json) (keywords : List String) : Except PyError Bool := do
  if keywords = [] then return true
  let lowered := py.lower (← title.strAttr "lower")
  return keywords.any fun kw => hasWord kw.toList none lowered.toList

/-- `published_at` -/
def publishedAt (time : Json) : Except PyError String :=
  if time.truthy then ts.ofJson time else .ok ""

/-- The item of a story. -/
def story (hnItem : Dict) (publishedAt : String) : Dict :=
  let url := hnItem.getD "url" (.str "")
  let score := hnItem.getD "score" (.int 0)
  let descendants := hnItem.getD "descendants" (.int 0)
  let author := hnItem.getD "by" (.str "")
  let text := hnItem.getD "text" .null
  [("title", hnItem.getD "title" (.str "")),
   ("url", if url.truthy then url
    else .str ("https://news.ycombinator.com/item?id=" ++ (hnItem.getD "id" (.str "")).format py)),
   ("summary", if text.truthy then text
    else .str ("Score: " ++ score.format py ++ " | Comments: " ++ descendants.format py)),
   ("published_at", .str publishedAt),
   ("author", author),
   ("extra_data", .obj
    [("hn_id", hnItem.getD "id" (.str "")), ("hn_score", score), ("hn_comments", descendants),
     ("hn_by", author)])]

/-- A turn of the loop. -/
def parseItem (keywords : List String) (hnItem : Json) : Except PyError (Option Dict) := do
  if hnItem.truthy = false then return none
  let fields ← hnItem.dictGet
  if (fields.getD "type" .null).isStr "story" = false then return none
  if (← matchesKeywords py (fields.getD "title" (.str "")) keywords) = false then return none
  return some (story py fields (← publishedAt ts (fields.getD "time" (.int 0))))

/-- `parse_data` -/
def parseData (source : Source) : Json → Except String (List Dict)
  | .arr rawData =>
    ((rawData.mapM (parseItem py ts (queryKeywords py source.config))).map
      List.reduceOption).mapError PyError.message
  | .null | .bool _ | .int _ | .float _ _ | .str _ | .obj _ => .ok []

end

end HackerNewsCollector

/-- `HackerNewsCollector` -/
def hackerNewsCollector (py : Stdlib) (ts : Timestamps) : Collector where
  maxRetries := 3
  rateLimitPerMinute := 30
  fetchData _ := HackerNewsCollector.fetchData
  parseData := HackerNewsCollector.parseData py ts
  validateData := Collector.requireTitleAndUrl

end InstantBoard
