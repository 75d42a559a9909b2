import InstantBoard.Collectors.HackerNews
import InstantBoard.Lib.FirstKept

/-!
# The Reddit collector

One request for each subreddit. Posts are told apart by `post_key` across subreddits; a post that cannot
be read is left out and harms no other. A subreddit that is answered 429 ends the fetch with nothing,
what came before it included, and any other failure makes the attempt raise: each attempt is one of
three kinds (`attempt_exists`).
-/

namespace InstantBoard.RedditCollector

def BASE_URL : String := "https://www.reddit.com"

def SELFTEXT_MAX_CHARS : Nat := 300

section

variable (py : Stdlib) (ts : Timestamps)

/-! ## Fetching -/

/-- `s.removeprefix("r/")` -/
def removePrefix (s : String) : String :=
  if Text.startsWith s "r/" then String.ofList (s.toList.drop 2) else s

/-- The names of `config.subreddits` as they are written. -/
def subredditParts : Json → List String
  | .str raw => Text.split (Text.replace raw "+" ",") ','
  | .arr parts => parts.map (·.format py)
  | .null | .bool _ | .int _ | .float _ _ | .obj _ => []

def subredditName (part : String) : String :=
  Text.strip (removePrefix (Text.strip part))

/-- `_subreddit_list` -/
def subredditList (raw : Json) : List String :=
  (subredditParts py raw).foldl (fun subreddits part =>
    let name := subredditName part
    if name ≠ "" ∧ name ∉ subreddits then subreddits ++ [name] else subreddits) []

/-- `post_key` -/
def postKey (post : Dict) : String :=
  (((post.getD "name" .null).or (post.getD "id" .null)).or (.str "")).format py

/-- The post of a child. -/
def childPost : Json → Option Dict
  | .obj child =>
    match Dict.getD child "data" .null with
    | .obj post => some post
    | .null | .bool _ | .int _ | .float _ _ | .str _ | .arr _ => none
  | .null | .bool _ | .int _ | .float _ _ | .str _ | .arr _ => none

/-- The children of a payload. -/
def children (payload : Json) : Except PyError (List Json) := do
  let data ← ((← payload.dictGet).getD "data" .null |>.or (.obj [])).dictGet
  TechService.iterate ((data.getD "children" .null).or (.arr []))

/-- What one subreddit does to the fetch. -/
inductive Listing where
  | raises (message : String)
  | rateLimited
  | posts (posts : List Dict)

/-- The request for one subreddit. -/
def listing : HttpOutcome → Listing
  | .timeout => .raises "timeout"
  | .httpError => .raises "HTTP error"
  | .raised message => .raises message
  | .response status _ json =>
    if status = 429 then .rateLimited
    else if status ≠ 200 then .raises ("HTTP " ++ toString status)
    else match json with
      | .error _ => .raises "Invalid JSON"
      | .ok payload => match children payload with
        | .error e => .raises e.message
        | .ok children => .posts (children.filterMap childPost)

/-- `posts` with a post that has not been seen; one without a key is always appended. -/
def addPost (posts : List Dict) (post : Dict) : List Dict :=
  let key := postKey py post
  if key ≠ "" ∧ key ∈ posts.map (postKey py) then posts else posts ++ [post]

/-- The loop over the subreddits. -/
def fetchListings : List Listing → List Dict → Except String (List Dict)
  | [], posts => .ok posts
  | .raises message :: _, _ => .error message
  | .rateLimited :: _, _ => .ok []
  | .posts more :: rest, posts => fetchListings rest (more.foldl (addPost py) posts)

def subreddits (source : Source) : List String :=
  subredditList py (source.config.getD "subreddits" .null)

/-- `fetch_data`; the request for a subreddit has the number of its place. -/
def fetchData (source : Source) (up : Upstream) : Except String (Option Json) :=
  let subreddits := subreddits py source
  if subreddits = [] then .ok none
  else (fetchListings py ((List.range subreddits.length).map fun k => listing (up k)) []).map
    fun posts => some (.arr (posts.map .obj))

/-! ## Parsing -/

/-- `str(v or "")` -/
def text (post : Dict) (key : String) : String :=
  ((post.getD key .null).or (.str "")).format py

/-- `float(v or 0)` -/
def created (post : Dict) : Option ℚ :=
  match (post.getD "created_utc" .null).or (.int 0) with
  | .int i => some i
  | .bool b => some (if b then 1 else 0)
  | .float value _ => some value
  | .str s => ts.float s
  | .null | .arr _ | .obj _ => none

/-- `published_at`; what raises counts as no date. -/
def publishedAt (post : Dict) : String :=
  match created ts post with
  | none => ""
  | some t => if 0 < t then ((ts.isoformat t).toOption).getD "" else ""

/-- `url` -/
def postUrl (post : Dict) : String :=
  let url := text py post "url"
  let permalink := text py post "permalink"
  if (url = "" ∨ (post.getD "is_self" .null).truthy) ∧ permalink ≠ "" then BASE_URL ++ permalink
  else url

/-- The item of a post, which needs a title. -/
def postItem (post : Dict) : Option Dict :=
  let title := Text.strip (text py post "title")
  let selftext := Text.strip (text py post "selftext")
  let author := text py post "author"
  if title = "" then none
  else some
    [("title", .str title),
     ("url", .str (postUrl py post)),
     ("summary", .str (if selftext ≠ "" then String.ofList (selftext.toList.take SELFTEXT_MAX_CHARS)
      else "Submitted by " ++ ((post.getD "author" .null).or (.str "unknown")).format py)),
     ("published_at", .str (publishedAt ts post)),
     ("author", .str author),
     ("extra_data", .obj
      [("reddit_score", post.getD "score" (.int 0)),
       ("num_comments", post.getD "num_comments" (.int 0)),
       ("subreddit", post.getD "subreddit" (.str "")),
       ("author", .str author)])]

/-- A turn of the loop. -/
def parsePost : Json → Option Dict
  | .obj post => postItem py ts post
  | .null | .bool _ | .int _ | .float _ _ | .str _ | .arr _ => none

/-- `parse_data` -/
def parseData : Json → Except String (List Dict)
  | .arr rawData => .ok (rawData.filterMap (parsePost py ts))
  | .null | .bool _ | .int _ | .float _ _ | .str _ | .obj _ => .ok []

end

end RedditCollector

/-- `RedditCollector` -/
def redditCollector (py : Stdlib) (ts : Timestamps) : Collector where
  maxRetries := 3
  rateLimitPerMinute := 10
  fetchData := RedditCollector.fetchData py
  parseData _ := RedditCollector.parseData py ts
  validateData := Collector.requireTitleAndUrl

namespace RedditCollector

variable (py : Stdlib) (ts : Timestamps)

/-! ## What an attempt comes to -/

/-- The key by which posts are told apart. -/
def keyOf (post : Dict) : Option String :=
  if postKey py post = "" then none else some (postKey py post)

/-- A post is added unless one with its key is kept. -/
lemma addPost_eq (posts : List Dict) (post : Dict) :
    addPost py posts post = FirstKept.keep (keyOf py) posts post := by
  unfold addPost FirstKept.keep keyOf
  by_cases hkey : postKey py post = ""
  · simp [hkey]
  · have hseen : FirstKept.Has (keyOf py) posts (postKey py post) ↔
        postKey py post ∈ posts.map (postKey py) := by
      rw [List.mem_map]
      constructor
      · intro ⟨p, hp, hpk⟩
        unfold keyOf at hpk
        split at hpk
        · cases hpk
        · exact ⟨p, hp, Option.some.inj hpk⟩
      · intro ⟨p, hp, hpk⟩
        refine ⟨p, hp, ?_⟩
        unfold keyOf
        rw [hpk, if_neg hkey]
    rw [if_neg hkey]
    dsimp only
    by_cases hin : postKey py post ∈ posts.map (postKey py)
    · rw [if_pos ⟨hkey, hin⟩]
      exact (if_pos (hseen.2 hin)).symm
    · rw [if_neg fun h => hin h.2]
      exact (if_neg fun h => hin (hseen.1 h)).symm

/-- The loop over listings that all have posts. -/
lemma fetchListings_posts (listings : List (List Dict)) (rest : List Listing) (posts : List Dict) :
    fetchListings py (listings.map .posts ++ rest) posts =
      fetchListings py rest (listings.flatten.foldl (FirstKept.keep (keyOf py)) posts) := by
  have haddPost : addPost py = FirstKept.keep (keyOf py) := funext₂ (addPost_eq py)
  induction listings generalizing posts with
  | nil => rfl
  | cons more listings ih =>
    rw [List.flatten_cons, List.foldl_append, ← ih]
    show fetchListings py (listings.map .posts ++ rest) (more.foldl (addPost py) posts) = _
    rw [haddPost]

/-- How the requests of an attempt end, as far as the first that has no posts. -/
inductive Attempt : List Listing → Except String (Option (List (List Dict))) → Prop where
  | raises {listings : List (List Dict)} {message : String} {rest : List Listing} :
      Attempt (listings.map .posts ++ .raises message :: rest) (.error message)
  | limited {listings : List (List Dict)} {rest : List Listing} :
      Attempt (listings.map .posts ++ .rateLimited :: rest) (.ok none)
  | complete {listings : List (List Dict)} : Attempt (listings.map .posts) (.ok (some listings))

/-- One more listing that is answered. -/
lemma Attempt.cons {listings : List Listing} {outcome : Except String (Option (List (List Dict)))}
    (h : Attempt listings outcome) (posts : List Dict) :
    Attempt (.posts posts :: listings) (outcome.map (Option.map (posts :: ·))) := by
  cases h with
  | @raises before message rest => exact @Attempt.raises (posts :: before) message rest
  | @limited before rest => exact @Attempt.limited (posts :: before) rest
  | @complete before => exact @Attempt.complete (posts :: before)

/-- Every attempt is of one kind. -/
lemma attempt_exists (listings : List Listing) : ∃ outcome, Attempt listings outcome := by
  induction listings with
  | nil => exact ⟨_, @Attempt.complete []⟩
  | cons listing listings ih =>
    cases listing with
    | raises message => exact ⟨_, @Attempt.raises [] message listings⟩
    | rateLimited => exact ⟨_, @Attempt.limited [] listings⟩
    | posts posts =>
      obtain ⟨outcome, h⟩ := ih
      exact ⟨_, h.cons posts⟩

/-- What the fetch makes of it. -/
lemma Attempt.fetch {listings : List Listing} {outcome : Except String (Option (List (List Dict)))}
    (h : Attempt listings outcome) :
    fetchListings py listings [] = outcome.map fun found =>
      ((found.getD []).flatten).foldl (FirstKept.keep (keyOf py)) [] := by
  cases h with
  | raises => exact fetchListings_posts py _ _ _
  | limited => exact fetchListings_posts py _ _ _
  | @complete before =>
    have h := fetchListings_posts py before [] []
    rw [List.append_nil] at h
    exact h

/-- The requests of an attempt, one for each subreddit. -/
def listings (source : Source) (up : Upstream) : List Listing :=
  (List.range (subreddits py source).length).map fun k => listing (up k)

/-- The item of a post, which needs a title and a URL. -/
def reported (post : Dict) : Option Dict :=
  if postUrl py post = "" then none else postItem py ts post

/-- `parse_data` and `validate_data` leave out the posts without a title or a URL. -/
lemma filterMap_reported (posts : List Dict) :
    (((posts.map Json.obj).filterMap (parsePost py ts)).filter fun item =>
      (item.getD "title" .null).truthy && (item.getD "url" .null).truthy) =
      posts.filterMap (reported py ts) := by
  rw [List.filterMap_map, List.filter_filterMap]
  apply List.filterMap_congr
  intro post hpost
  show (postItem py ts post).filter _ = reported py ts post
  unfold reported postItem
  by_cases htitle : Text.strip (text py post "title") = ""
  · simp [htitle]
  · by_cases hurl : postUrl py post = ""
    · simp [htitle, hurl, Dict.getD, Dict.get?_cons, Json.truthy]
    · simp [htitle, hurl, Dict.getD, Dict.get?_cons, Json.truthy]

namespace Sample

/-- A library that leaves texts as they are. -/
def plain : Stdlib where
  lower := id
  reprStr := id
  md5 := id
  urlparse _ := none
  parseQs _ := []
  urlencode _ := ""
  urlunparse _ := ""
  strptime _ _ := none
  fromisoformat _ := none

def undated : Timestamps where
  float _ := none
  isoformat _ := .error (.valueError "out of range")

def robots : Source where
  id := "r1"
  tenantId := SYSTEM_TENANT_ID
  categoryId := "tech"
  name := "Robots"
  sourceType := "social"
  url := "https://www.reddit.com"
  config := [("library", .str "reddit"), ("subreddits", .arr [.str "robotics", .str "r/artificial"])]
  refreshIntervalSeconds := none
  isActive := true
  priority := 5

def post : Dict :=
  [("name", .str "t3_x"), ("title", .str " Robots "), ("url", .str "https://a.example/robots")]

/-- The answer with the post. -/
def answer : HttpOutcome :=
  .response 200 "" (.ok (.obj [("data", .obj [("children", .arr [.obj [("data", .obj post)]])])]))

/-- The first attempt times out; in the second both subreddits have the post. -/
def conditions : Conditions where
  rateOk := true
  attempts i _ := if i = 0 then .timeout else answer
  elapsedMs := 1200

def outcomes (i : Nat) : Except String (Option (List (List Dict))) :=
  if i = 0 then .error "timeout" else .ok (some [[post], [post]])

/-- The attempts of the sample. -/
lemma attempt (i : Nat) : Attempt (listings plain robots (conditions.attempts i)) (outcomes i) := by
  cases i with
  | zero => exact @Attempt.raises [] "timeout" [.raises "timeout"]
  | succ i => exact @Attempt.complete [[post], [post]]

end Sample

end RedditCollector

end InstantBoard
