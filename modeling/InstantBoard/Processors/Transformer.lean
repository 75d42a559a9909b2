import InstantBoard.Processors.Base

/-!
# The transformer processor

The only processor that builds a new dictionary. Each reading of the clock is one of `Clock`, in
microseconds since the start of year 1.
-/

namespace InstantBoard

/-- The readings of the clock while an item is transformed and stored. -/
structure Clock where
  normalizedAt : Nat
  fetchedAt : Nat
  pricedAt : Nat
  storedAt : Nat

namespace TransformerProcessor

def TRACKING_PARAMS : List String :=
  ["utm_source", "utm_medium", "utm_campaign", "utm_content", "utm_term", "fbclid", "gclid", "ref",
   "source", "share", "mc_cid", "mc_eid"]

/-- `_clean_html_summary`. -/
def cleanHtmlSummary (summary : String) : String :=
  let clean := String.ofList (Text.removeTags 0 summary.toList)
  let clean := Text.replace clean "&nbsp;" " "
  let clean := Text.replace clean "&amp;" "&"
  let clean := Text.replace clean "&lt;" "<"
  let clean := Text.replace clean "&gt;" ">"
  let clean := Text.replace clean "&quot;" "\""
  let clean := Text.strip (String.ofList (Text.collapse false clean.toList))
  if 200 < clean.length then String.ofList (clean.toList.take 200) ++ "..." else clean

/-- `_normalize_url`. -/
def normalizeUrl (py : Stdlib) (url : String) : String :=
  let url := Text.strip url
  if url = "" then ""
  else
    let url :=
      if "http://".toList <+: url.toList ∨ "https://".toList <+: url.toList then url
      else "https://" ++ url
    match py.urlparse url with
    | none => url
    | some parsed =>
      let queryDict := (py.parseQs parsed.query).filter fun kv => kv.1 ∉ TRACKING_PARAMS
      let normalized := py.urlunparse
        { parsed with netloc := py.lower parsed.netloc, query := py.urlencode queryDict }
      if "/".toList <:+ normalized.toList then String.ofList normalized.toList.dropLast
      else normalized

/-- The `formats` of `_normalize_timestamp`. -/
def FORMATS : List String :=
  ["%Y-%m-%dT%H:%M:%S%z", "%Y-%m-%dT%H:%M:%SZ", "%Y-%m-%dT%H:%M:%S.%f%z", "%Y-%m-%dT%H:%M:%S.%fZ",
   "%Y-%m-%d %H:%M:%S%z", "%Y-%m-%d %H:%M:%S", "%a, %d %b %Y %H:%M:%S %z",
   "%a, %d %b %Y %H:%M:%S", "%d %b %Y %H:%M:%S"]

/-- `_normalize_timestamp`. Only a `ValueError` moves on to the next format, and a value that is
not a string is a `TypeError` at the first one. -/
def normalizeTimestamp (py : Stdlib) (now : Nat) (timestamp : Json) : Except PyError String :=
  if !timestamp.truthy then .ok (Moment.utcIso now)
  else match timestamp with
    | .str text =>
      match FORMATS.findSome? (py.strptime text) with
      | some dt => dt.astimezoneIso
      | none =>
        match py.fromisoformat (Text.replace text "Z" "+00:00") with
        | some dt => dt.astimezoneIso
        | none => .ok (Moment.utcIso now)
    | v => .error (.typeError ("strptime() argument 1 must be str, not " ++ v.typeName))

/-- The bonus for an item published in the last hours; `-` raises for a naive time and the
`TypeError` is caught. -/
def freshnessBonus (py : Stdlib) (now : Nat) (publishedAt : Json) : Except PyError Int := do
  if !publishedAt.truthy then pure 0 else do
  let text ← publishedAt.strAttr "replace"
  match py.fromisoformat (Text.replace text "Z" "+00:00") with
  | none => pure 0
  | some dt =>
    if !dt.aware then pure 0
    else if (now : Int) - dt.micros < 3600000000 then pure 2
    else if (now : Int) - dt.micros < 6 * 3600000000 then pure 1
    else pure 0

/-- `_calculate_priority`. -/
def calculatePriority (py : Stdlib) (source : CollectedSource) (now : Nat) (item : Dict) :
    Except PyError Int := do
  let contentLength ← ((item.getD "summary" (.str "")).or (.str "")).len
  let lengthBonus : Int := if 500 < contentLength then 2 else if 200 < contentLength then 1 else 0
  let freshness ← freshnessBonus py now (item.getD "published_at" (.str ""))
  let hnScore := match (item.getD "extra_data" (.obj [])).or (.obj []) with
    | .obj fields => Dict.getD fields "hn_score" (.int 0)
    | _ => .int 0
  let scoreBonus : Int ←
    if ← hnScore.greater 100 then pure 2 else if ← hnScore.greater 50 then pure 1 else pure 0
  pure (min (source.priority + lengthBonus + freshness + scoreBonus) 10)

/-- `process`. -/
def process (py : Stdlib) (source : CollectedSource) (clock : Clock) (item : Dict) :
    Except PyError (Option Dict) := do
  let title := Text.strip (← (item.getD "title" (.str "")).strAttr "strip")
  if title = "" then pure none else do
  let summary ← (((item.getD "summary" (.str "")).or (item.getD "description" (.str ""))).or
    (.str "")).subText
  let url := normalizeUrl py (← (item.getD "url" (.str "")).strAttr "strip")
  if url = "" then pure none else do
  let imageUrl := normalizeUrl py
    (← ((item.getD "image_url" (.str "")).or (item.getD "thumbnail" (.str ""))).strAttr "strip")
  let publishedAt ← normalizeTimestamp py clock.normalizedAt
    (((item.getD "published_at" .null).or (item.getD "pubDate" .null)).or (.str ""))
  let topicTags := match item.getD "topic_tags" (.arr []) with
    | .arr tags => Json.arr tags
    | _ => .arr []
  let priority ← calculatePriority py source clock.pricedAt item
  pure (some
    [("title", .str title),
     ("summary", .str (cleanHtmlSummary summary)),
     ("url", .str url),
     ("image_url", .str imageUrl),
     ("published_at", .str publishedAt),
     ("fetched_at", .str (Moment.utcIso clock.fetchedAt)),
     ("topic_tags", topicTags),
     ("extra_data", (item.getD "extra_data" (.obj [])).or (.obj [])),
     ("source_id", .str source.id),
     ("source_name", .str source.name),
     ("category_id", item.getD "category_id" (.str "")),
     ("tenant_id", .str (if source.tenantId = "" then SYSTEM_TENANT_ID else source.tenantId)),
     ("priority", .int priority),
     ("_dedup_hash", item.getD "_dedup_hash" (.str ""))])

end TransformerProcessor

end InstantBoard
