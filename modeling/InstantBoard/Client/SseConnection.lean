import InstantBoard.Lib.Transition
import Mathlib.Data.Nat.Digits.Defs

/-!
# The client's SSE connection

`SSEConnection` of the frontend on the page that holds its `EventSource` objects, its timers and the
stored token. A run is any sequence of calls, of callbacks of the sources that are not closed and of
timers that are due.

`connect` of a connection that waits to reconnect leaves the waiting timer alone. An error before
that timer fires sets a second one over its handle, and `disconnect` clears only the last. The runs
that obey `disconnect` are those without such an error (`obeysDisconnect_iff`).
-/

namespace InstantBoard.Client

open Transition

/-! ## The page -/

inductive SSEConnectionState where
  | disconnected
  | connecting
  | connected
  | reconnecting
  deriving DecidableEq

/-- An `EventSource`. Closed for good, it calls nothing back. -/
structure EventSource where
  url : String
  closed : Bool

/-- A `setTimeout` that has neither fired nor been cleared. -/
structure Timer where
  handle : Nat
  due : Nat

/-- The fields of an `SSEConnection`; its source is named by its position on the page. -/
structure SSEConnection where
  eventSource : Option Nat
  category : String
  token : String
  state : SSEConnectionState
  backoff : Nat
  reconnectTimer : Option Nat
  intentionallyClosed : Bool

/-- The connection, the sources it opened, its timers, the clock in milliseconds, the token in
`localStorage`, and what `onStateChange` was told. -/
structure Page where
  conn : SSEConnection
  sources : List EventSource
  timers : List Timer
  handles : Nat
  now : Nat
  accessToken : Option String
  told : List SSEConnectionState

def SSE_BASE_URL : String := "/api/v1/stream"

def MAX_BACKOFF : Nat := 60000

def INITIAL_BACKOFF : Nat := 1000

/-- `%XX` -/
def percent (b : UInt8) : String :=
  let digits := (Nat.toDigits 16 b.toNat).map Char.toUpper
  "%" ++ String.ofList (List.replicate (2 - digits.length) '0' ++ digits)

def encodeURIComponent (s : String) : String :=
  String.join (s.toList.map fun c =>
    if c.isAlphanum || c ∈ "-_.!~*'()".toList then c.toString
    else String.join ((String.utf8EncodeChar c).map percent))

/-- `a || b` -/
def orElse (a : Option String) (b : String) : String :=
  (a.filter (· ≠ "")).getD b

/-! ## The methods -/

namespace Page

/-- `new SSEConnection(options)` -/
def new (category : String) (token accessToken : Option String) (now : Nat) : Page where
  conn :=
    { eventSource := none
      category
      token := orElse token (orElse accessToken "")
      state := .disconnected
      backoff := INITIAL_BACKOFF
      reconnectTimer := none
      intentionallyClosed := false }
  sources := []
  timers := []
  handles := 0
  now
  accessToken
  told := []

def isOpen (p : Page) (i : Nat) : Bool :=
  p.sources[i]?.any fun s => !s.closed

def setState (p : Page) (state : SSEConnectionState) : Page :=
  { p with
    conn := { p.conn with state }
    told := p.told ++ [state] }

/-- `this.eventSource?.close(); this.eventSource = null` -/
def closeSource (p : Page) : Page :=
  match p.conn.eventSource with
  | none => p
  | some i =>
    { p with
      conn := { p.conn with eventSource := none }
      sources := p.sources.modify i fun s => { s with closed := true } }

def clearTimeout (p : Page) (handle : Nat) : Page :=
  { p with timers := p.timers.filter (·.handle ≠ handle) }

/-- `if (this.reconnectTimer) { clearTimeout(this.reconnectTimer); this.reconnectTimer = null; }` -/
def clearReconnectTimer (p : Page) : Page :=
  match p.conn.reconnectTimer with
  | none => p
  | some handle => { p.clearTimeout handle with conn := { p.conn with reconnectTimer := none } }

def connect (p : Page) : Page :=
  if p.conn.state = .connected ∨ p.conn.state = .connecting then p
  else
    let conn := { p.conn with
      token := orElse p.accessToken p.conn.token
      intentionallyClosed := false }
    let p := { p with conn }.setState .connecting
    let url := SSE_BASE_URL ++ "/" ++ conn.category ++ "?token=" ++ encodeURIComponent conn.token
    { p with
      conn := { p.conn with eventSource := some p.sources.length }
      sources := p.sources ++ [{ url, closed := false }] }

def disconnect (p : Page) : Page :=
  let p := { p with conn := { p.conn with intentionallyClosed := true } }
  p.clearReconnectTimer.closeSource.setState .disconnected

def setToken (p : Page) (token : String) : Page :=
  { p with conn := { p.conn with token } }

def updateToken (p : Page) (token : String) : Page :=
  if p.conn.state = .connected ∨ p.conn.state = .connecting then
    (p.setToken token).disconnect.connect
  else p.setToken token

def scheduleReconnect (p : Page) : Page :=
  if p.conn.intentionallyClosed then p
  else
    let handle := p.handles + 1
    { p with
      conn := { p.conn with
        reconnectTimer := some handle
        backoff := min (p.conn.backoff * 2) MAX_BACKOFF }
      timers := p.timers ++ [{ handle, due := p.now + p.conn.backoff }]
      handles := handle }

def onopen (p : Page) : Page :=
  let p := p.setState .connected
  { p with conn := { p.conn with backoff := INITIAL_BACKOFF } }

def onerror (p : Page) : Page :=
  let p := p.closeSource
  if p.conn.intentionallyClosed then p.setState .disconnected
  else (p.setState .reconnecting).scheduleReconnect

end Page

/-! ## Runs -/

/-- What happens on the page: the calls, the callbacks, a timer that fires, time that passes, and a
token that is stored or removed. -/
inductive PageEvent where
  | connect
  | disconnect
  | updateToken (token : String)
  | opened (i : Nat)
  | failed (i : Nat)
  | fired (handle : Nat)
  | wait (ms : Nat)
  | stored (accessToken : Option String)

def PageEvent.isExplicit : PageEvent → Bool
  | .connect | .updateToken _ => true
  | _ => false

def Page.step (p : Page) : PageEvent → Option Page
  | .connect => some p.connect
  | .disconnect => some p.disconnect
  | .updateToken token => some (p.updateToken token)
  | .opened i => if p.isOpen i then some p.onopen else none
  | .failed i => if p.isOpen i then some p.onerror else none
  | .fired handle =>
    if p.timers.any (fun t => t.handle = handle ∧ t.due ≤ p.now) then
      some (p.clearTimeout handle).connect
    else none
  | .wait ms => some { p with now := p.now + ms }
  | .stored accessToken => some { p with accessToken }

def PageStep (p : Page) (e : PageEvent) (q : Page) : Prop :=
  p.step e = some q

/-- What holds of the page at any time. -/
structure Page.Orderly (p : Page) : Prop where
  oneSource : ∀ i j, p.isOpen i = true → p.isOpen j = true → i = j
  oneTimer : p.timers.length ≤ 1
  reconnects : p.conn.state = .reconnecting → p.timers ≠ []

/-- The run obeys `disconnect`: the page is orderly all along, and after a `disconnect` no source is
opened before the next explicit call. -/
structure ObeysDisconnect (p : Page) (es : List PageEvent) : Prop where
  orderly : ∀ before q, before <+: es → Steps PageStep p before q → q.Orderly
  staysClosed : ∀ before after q r, before ++ .disconnect :: after <+: es →
    Steps PageStep p (before ++ [.disconnect]) q → Steps PageStep q after r →
    (∀ e ∈ after, e.isExplicit = false) → r.sources.length = q.sources.length

/-- No source fails while a timer is pending. -/
def FailsAlone (p : Page) (e : PageEvent) : Prop :=
  ∀ i, e = .failed i → p.timers = []

/-! ## What the methods do -/

namespace Page

variable {p q : Page}

/-- A page event has one outcome. -/
lemma step_det {e : PageEvent} {r : Page} (h : PageStep p e q) (h' : PageStep p e r) : q = r := by
  unfold PageStep at h h'
  rw [h] at h'
  exact Option.some.inj h'

/-- The state is not the source. -/
@[simp] lemma isOpen_setState (s : SSEConnectionState) (i : Nat) :
    (p.setState s).isOpen i = p.isOpen i := rfl

/-- A timer is not the source. -/
@[simp] lemma isOpen_clearTimeout (handle i : Nat) :
    (p.clearTimeout handle).isOpen i = p.isOpen i := rfl

/-- Closing the connection's source leaves the others as they are. -/
lemma isOpen_closeSource (i : Nat) :
    p.closeSource.isOpen i = (p.isOpen i && decide (p.conn.eventSource ≠ some i)) := by
  unfold closeSource
  cases hsource : p.conn.eventSource with
  | none => simp
  | some j =>
    show ((p.sources.modify j _)[i]?.any _) = _
    rw [List.getElem?_modify]
    unfold isOpen
    cases hi : p.sources[i]? with
    | none => rfl
    | some s =>
      by_cases hij : j = i
      · simp [hij]
      · simp [hij]

/-- Closing makes no source. -/
lemma closeSource_sources_length : p.closeSource.sources.length = p.sources.length := by
  unfold closeSource
  cases p.conn.eventSource with
  | none => rfl
  | some i => exact List.length_modify ..

/-- Closing leaves the timers. -/
@[simp] lemma closeSource_timers : p.closeSource.timers = p.timers := by
  unfold closeSource
  cases p.conn.eventSource with
  | none => rfl
  | some i => rfl

/-- Closing leaves the handles. -/
@[simp] lemma closeSource_handles : p.closeSource.handles = p.handles := by
  unfold closeSource
  cases p.conn.eventSource with
  | none => rfl
  | some i => rfl

/-- Closing takes no time. -/
@[simp] lemma closeSource_now : p.closeSource.now = p.now := by
  unfold closeSource
  cases p.conn.eventSource with
  | none => rfl
  | some i => rfl

/-- Only the source of the connection changes. -/
lemma closeSource_conn : p.closeSource.conn = { p.conn with eventSource := none } := by
  unfold closeSource
  cases hsource : p.conn.eventSource with
  | none =>
    show p.conn = _
    rw [← hsource]
  | some i => rfl

/-- Connecting leaves the timers. -/
@[simp] lemma timers_connect : p.connect.timers = p.timers := by
  unfold connect
  split
  · rfl
  · rfl

/-- Connecting leaves the timer for the next try. -/
@[simp] lemma reconnectTimer_connect : p.connect.conn.reconnectTimer = p.conn.reconnectTimer := by
  unfold connect
  split
  · rfl
  · rfl

/-- `connect` does nothing, or opens a source. -/
lemma connect_cases (p : Page) :
    (p.conn.state = .connected ∨ p.conn.state = .connecting) ∧ p.connect = p ∨
      ¬ (p.conn.state = .connected ∨ p.conn.state = .connecting) ∧
        p.connect.conn.state = .connecting ∧ p.connect.conn.intentionallyClosed = false ∧
        p.connect.conn.eventSource = some p.sources.length ∧
        ∃ url, p.connect.sources = p.sources ++ [{ url, closed := false }] := by
  unfold connect
  split
  · rename_i hstate
    exact .inl ⟨hstate, rfl⟩
  · rename_i hstate
    exact .inr ⟨hstate, rfl, rfl, rfl, _, rfl⟩

/-- The timers that `disconnect` leaves. -/
lemma disconnect_timers :
    p.disconnect.timers = p.timers.filter fun t => p.conn.reconnectTimer ≠ some t.handle := by
  unfold disconnect
  show (clearReconnectTimer _).closeSource.timers = _
  rw [closeSource_timers]
  unfold clearReconnectTimer
  cases htimer : p.conn.reconnectTimer with
  | none =>
    symm
    apply List.filter_eq_self.2
    simp
  | some handle =>
    apply List.filter_congr
    intro t _
    simp [eq_comm]

/-- Clearing the timer leaves the sources. -/
lemma clearReconnectTimer_sources : p.clearReconnectTimer.sources = p.sources := by
  unfold clearReconnectTimer
  cases p.conn.reconnectTimer with
  | none => rfl
  | some handle => rfl

/-- Clearing the timer leaves the event source. -/
lemma clearReconnectTimer_eventSource :
    p.clearReconnectTimer.conn.eventSource = p.conn.eventSource := by
  unfold clearReconnectTimer
  cases p.conn.reconnectTimer with
  | none => rfl
  | some handle => rfl

/-- After `disconnect` the state is `disconnected`. -/
lemma disconnect_state : p.disconnect.conn.state = .disconnected := rfl

/-- After `disconnect` there is no event source. -/
lemma disconnect_eventSource : p.disconnect.conn.eventSource = none := by
  show (closeSource _).conn.eventSource = _
  rw [closeSource_conn]

/-- `disconnect` closes what `closeSource` does. -/
lemma disconnect_isOpen (i : Nat) : p.disconnect.isOpen i = p.closeSource.isOpen i := by
  show (closeSource _).isOpen i = _
  rw [isOpen_closeSource, isOpen_closeSource, clearReconnectTimer_eventSource]
  unfold isOpen
  rw [clearReconnectTimer_sources]

/-! ## What always holds -/

/-- The open source is the connection's, and the connection knows that it is up. -/
structure Wired (p : Page) : Prop where
  source : ∀ i, p.isOpen i = true → p.conn.eventSource = some i
  live : p.conn.eventSource ≠ none →
    (p.conn.state = .connected ∨ p.conn.state = .connecting) ∧ p.conn.intentionallyClosed = false

/-- The fields of the connection fit the page. -/
structure Coherent (p : Page) : Prop extends Wired p where
  pending : p.conn.state = .reconnecting → p.timers ≠ []

/-- After closing no source is open. -/
lemma Wired.isOpen_closeSource (h : p.Wired) (i : Nat) : p.closeSource.isOpen i = false := by
  rw [Page.isOpen_closeSource]
  cases hopen : p.isOpen i with
  | false => rfl
  | true => simp [h.source i hopen]

/-- The source that calls back is the connection's. -/
lemma Wired.of_open (h : p.Wired) {i : Nat} (hopen : p.isOpen i = true) :
    (p.conn.state = .connected ∨ p.conn.state = .connecting) ∧
      p.conn.intentionallyClosed = false := by
  apply h.live
  rw [h.source i hopen]
  exact Option.some_ne_none i

/-- Connecting leaves the page coherent. -/
lemma Wired.connect (h : p.Wired) : p.connect.Coherent := by
  obtain ⟨hstate, heq⟩ | ⟨hstate, hstate', hclosed, hsource, url, hsources⟩ := p.connect_cases
  · rw [heq]
    refine ⟨h, fun hrec => ?_⟩
    rw [hrec] at hstate
    simp at hstate
  · have hnone : ∀ i, p.isOpen i = false := by
      intro i
      cases hopen : p.isOpen i with
      | false => rfl
      | true => exact absurd (h.of_open hopen).1 hstate
    refine ⟨⟨?_, fun _ => ⟨.inr hstate', hclosed⟩⟩, ?_⟩
    · intro i hi
      unfold isOpen at hi
      rw [hsources, List.getElem?_append] at hi
      split at hi
      · have hi' := hnone i
        unfold isOpen at hi'
        rw [hi'] at hi
        cases hi
      · rename_i hlt
        have hlen : i - p.sources.length = 0 := by
          cases hk : i - p.sources.length with
          | zero => rfl
          | succ k => simp [hk] at hi
        rw [hsource]
        congr 1
        omega
    · intro hrec
      rw [hstate'] at hrec
      cases hrec

/-- Disconnecting leaves the page coherent. -/
lemma Wired.disconnect (h : p.Wired) : p.disconnect.Coherent := by
  refine ⟨⟨?_, fun hne => absurd disconnect_eventSource hne⟩, ?_⟩
  · intro i hi
    rw [disconnect_isOpen, h.isOpen_closeSource] at hi
    cases hi
  · intro hrec
    rw [disconnect_state] at hrec
    cases hrec

/-- An open event leaves the page coherent. -/
lemma Wired.onopen (h : p.Wired) {i : Nat} (hopen : p.isOpen i = true) :
    p.onopen.Coherent where
  source := h.source
  live _ := ⟨.inl rfl, (h.of_open hopen).2⟩
  pending hrec := by cases hrec

/-- An error of an open source makes the connection wait for a new timer. -/
lemma Wired.onerror_eq (h : p.Wired) {i : Nat} (hopen : p.isOpen i = true) :
    p.onerror.conn.eventSource = none ∧ p.onerror.sources = p.closeSource.sources ∧
      p.onerror.timers = p.timers ++ [{ handle := p.handles + 1, due := p.now + p.conn.backoff }] ∧
      p.onerror.conn.reconnectTimer = some (p.handles + 1) := by
  have hclosed : p.closeSource.conn.intentionallyClosed = false := by
    rw [closeSource_conn]
    exact (h.of_open hopen).2
  have hstate : (p.closeSource.setState .reconnecting).conn.intentionallyClosed = false := hclosed
  unfold Page.onerror
  rw [if_neg (by rw [hclosed]; exact Bool.false_ne_true)]
  unfold scheduleReconnect
  rw [if_neg (by rw [hstate]; exact Bool.false_ne_true)]
  have hsource : p.closeSource.conn.eventSource = none := by rw [closeSource_conn]
  refine ⟨hsource, rfl, ?_, ?_⟩
  · show p.closeSource.timers ++ [{ handle := p.closeSource.handles + 1
                                    due := p.closeSource.now + p.closeSource.conn.backoff }] = _
    rw [closeSource_conn, closeSource_timers, closeSource_handles, closeSource_now]
  · show some (p.closeSource.handles + 1) = _
    rw [closeSource_handles]

/-- An error leaves the page coherent. -/
lemma Wired.onerror (h : p.Wired) {i : Nat} (hopen : p.isOpen i = true) :
    p.onerror.Coherent := by
  obtain ⟨hnone, hsources, htimers, -⟩ := h.onerror_eq hopen
  refine ⟨⟨?_, fun hne => absurd hnone hne⟩, fun _ => ?_⟩
  · intro j hj
    unfold isOpen at hj
    rw [hsources] at hj
    have hj' := h.isOpen_closeSource j
    unfold isOpen at hj'
    rw [hj'] at hj
    cases hj
  · rw [htimers]
    exact List.append_ne_nil_of_right_ne_nil _ (List.cons_ne_nil _ _)

/-- `updateToken` stores the token, and connects afresh where the connection is up. -/
lemma updateToken_cases (p : Page) (token : String) :
    p.updateToken token = p.setToken token ∨
      p.updateToken token = (p.setToken token).disconnect.connect := by
  unfold updateToken
  split
  · exact .inr rfl
  · exact .inl rfl

/-- A new token leaves the page coherent. -/
lemma Coherent.setToken (h : p.Coherent) (token : String) : (p.setToken token).Coherent where
  source := h.source
  live := h.live
  pending := h.pending

/-- A page event leaves the page coherent. -/
lemma Coherent.step {e : PageEvent} (h : p.Coherent) (hst : PageStep p e q) : q.Coherent := by
  cases e with
  | connect =>
    cases hst
    exact h.connect
  | disconnect =>
    cases hst
    exact h.disconnect
  | updateToken token =>
    cases hst
    rcases p.updateToken_cases token with heq | heq
    · rw [heq]
      exact h.setToken token
    · rw [heq]
      exact (h.setToken token).disconnect.connect
  | opened i =>
    obtain ⟨hopen, heq⟩ := Option.ite_none_right_eq_some.1 hst
    cases heq
    exact h.onopen hopen
  | failed i =>
    obtain ⟨hopen, heq⟩ := Option.ite_none_right_eq_some.1 hst
    cases heq
    exact h.onerror hopen
  | fired handle =>
    obtain ⟨_, heq⟩ := Option.ite_none_right_eq_some.1 hst
    cases heq
    have hwired : (p.clearTimeout handle).Wired := ⟨h.source, h.live⟩
    exact hwired.connect
  | wait ms =>
    cases hst
    exact ⟨⟨h.source, h.live⟩, h.pending⟩
  | stored accessToken =>
    cases hst
    exact ⟨⟨h.source, h.live⟩, h.pending⟩

/-- A new page is coherent. -/
lemma coherent_new (category : String) (token accessToken : Option String) (now : Nat) :
    (new category token accessToken now).Coherent where
  source _ hi := by cases hi
  live hne := absurd rfl hne
  pending hrec := by cases hrec

/-! ## The timers -/

/-- Only an error adds a timer. -/
lemma timers_sublist {e : PageEvent} (hst : PageStep p e q) (he : ∀ i, e ≠ .failed i) :
    q.timers.Sublist p.timers := by
  cases e with
  | connect =>
    cases hst
    exact timers_connect (p := p) ▸ List.Sublist.refl p.timers
  | disconnect =>
    cases hst
    rw [disconnect_timers]
    exact List.filter_sublist
  | updateToken token =>
    cases hst
    rcases p.updateToken_cases token with heq | heq
    · rw [heq]
      exact List.Sublist.refl _
    · rw [heq, timers_connect, disconnect_timers]
      exact List.filter_sublist
  | opened i =>
    obtain ⟨_, heq⟩ := Option.ite_none_right_eq_some.1 hst
    cases heq
    exact List.Sublist.refl _
  | failed i => exact absurd rfl (he i)
  | fired handle =>
    obtain ⟨_, heq⟩ := Option.ite_none_right_eq_some.1 hst
    cases heq
    rw [timers_connect]
    exact List.filter_sublist
  | wait ms =>
    cases hst
    exact List.Sublist.refl _
  | stored accessToken =>
    cases hst
    exact List.Sublist.refl _

/-- A second timer is set exactly by a source that does not fail alone. -/
lemma oneTimer_iff {e : PageEvent} (h : p.Coherent) (hone : p.timers.length ≤ 1)
    (hst : PageStep p e q) : q.timers.length ≤ 1 ↔ FailsAlone p e := by
  by_cases he : ∃ i, e = .failed i
  · obtain ⟨i, rfl⟩ := he
    obtain ⟨hopen, heq⟩ := Option.ite_none_right_eq_some.1 hst
    cases heq
    obtain ⟨-, -, htimers, -⟩ := h.onerror_eq hopen
    rw [htimers, List.length_append]
    constructor
    · intro hlen j _
      exact List.length_eq_zero_iff.1 (by simpa using hlen)
    · intro halone
      rw [halone i rfl]
      exact Nat.le_refl 1
  · refine iff_of_true ?_ fun i hi => absurd ⟨i, hi⟩ he
    exact (timers_sublist hst fun i hi => he ⟨i, hi⟩).length_le.trans hone

/-- The pending timer is the one `disconnect` clears. -/
def Cleared (p : Page) : Prop :=
  ∀ t ∈ p.timers, p.conn.reconnectTimer = some t.handle

/-- After `disconnect` no timer runs. -/
lemma Cleared.disconnect_timers (h : p.Cleared) : p.disconnect.timers = [] := by
  rw [Page.disconnect_timers]
  apply List.filter_eq_nil_iff.2
  intro t ht
  simp [h t ht]

/-- A page event leaves no timer behind, where failures come alone. -/
lemma Cleared.step {e : PageEvent} (hp : p.Coherent) (h : p.Cleared) (halone : FailsAlone p e)
    (hst : PageStep p e q) : q.Cleared := by
  have hempty : ∀ {q : Page}, q.timers = [] → q.Cleared := by
    intro q hq t ht
    rw [hq] at ht
    cases ht
  cases e with
  | connect =>
    cases hst
    intro t ht
    rw [timers_connect] at ht
    rw [reconnectTimer_connect]
    exact h t ht
  | disconnect =>
    cases hst
    exact hempty h.disconnect_timers
  | updateToken token =>
    cases hst
    have htoken : (p.setToken token).Cleared := h
    rcases p.updateToken_cases token with heq | heq
    · rw [heq]
      exact htoken
    · apply hempty
      rw [heq, timers_connect]
      exact htoken.disconnect_timers
  | opened i =>
    obtain ⟨_, heq⟩ := Option.ite_none_right_eq_some.1 hst
    cases heq
    exact h
  | failed i =>
    obtain ⟨hopen, heq⟩ := Option.ite_none_right_eq_some.1 hst
    cases heq
    obtain ⟨-, -, htimers, hhandle⟩ := hp.onerror_eq hopen
    rw [halone i rfl, List.nil_append] at htimers
    intro t ht
    rw [htimers] at ht
    rw [hhandle, List.mem_singleton.1 ht]
  | fired handle =>
    obtain ⟨_, heq⟩ := Option.ite_none_right_eq_some.1 hst
    cases heq
    intro t ht
    rw [timers_connect] at ht
    rw [reconnectTimer_connect]
    exact h t (List.mem_filter.1 ht).1
  | wait ms =>
    cases hst
    exact h
  | stored accessToken =>
    cases hst
    exact h

/-! ## After a `disconnect` -/

/-- Nothing can open a source but a call. -/
structure Silent (p : Page) : Prop where
  closed : ∀ i, p.isOpen i = false
  timers : p.timers = []

/-- Without a call a silent page stays silent and opens no source. -/
lemma Silent.step {e : PageEvent} (h : p.Silent) (hst : PageStep p e q)
    (hcall : e.isExplicit = false) : q.Silent ∧ q.sources.length = p.sources.length := by
  cases e with
  | connect => cases hcall
  | disconnect =>
    cases hst
    refine ⟨⟨fun i => ?_, ?_⟩, ?_⟩
    · rw [disconnect_isOpen, isOpen_closeSource, h.closed i]
      rfl
    · rw [disconnect_timers, h.timers]
      rfl
    · show (closeSource _).sources.length = _
      rw [closeSource_sources_length, clearReconnectTimer_sources]
  | updateToken token => cases hcall
  | opened i =>
    obtain ⟨hopen, _⟩ := Option.ite_none_right_eq_some.1 hst
    rw [h.closed i] at hopen
    cases hopen
  | failed i =>
    obtain ⟨hopen, _⟩ := Option.ite_none_right_eq_some.1 hst
    rw [h.closed i] at hopen
    cases hopen
  | fired handle =>
    obtain ⟨hdue, _⟩ := Option.ite_none_right_eq_some.1 hst
    rw [h.timers] at hdue
    cases hdue
  | wait ms =>
    cases hst
    exact ⟨⟨h.closed, h.timers⟩, rfl⟩
  | stored accessToken =>
    cases hst
    exact ⟨⟨h.closed, h.timers⟩, rfl⟩

/-- Without a call a silent page never opens a source. -/
lemma Silent.run {es : List PageEvent} (h : p.Silent) (run : Steps PageStep p es q)
    (hcalls : ∀ e ∈ es, e.isExplicit = false) : q.sources.length = p.sources.length := by
  induction run with
  | nil => rfl
  | cons hst _ ih =>
    obtain ⟨hsilent, hlen⟩ := h.step hst (hcalls _ List.mem_cons_self)
    rw [ih hsilent fun e he => hcalls e (List.mem_cons_of_mem _ he)]
    exact hlen

/-- After `disconnect` the page is silent. -/
lemma Cleared.silent_disconnect (hp : p.Coherent) (h : p.Cleared) : p.disconnect.Silent where
  closed i := by
    rw [disconnect_isOpen]
    exact hp.isOpen_closeSource i
  timers := h.disconnect_timers

end Page

/-- The runs that obey `disconnect` are those in which no source fails while a reconnect timer is
pending. -/
theorem obeysDisconnect_iff (category : String) (token accessToken : Option String) (now : Nat)
    (es : List PageEvent) (q : Page) :
    Steps PageStep (Page.new category token accessToken now) es q ∧
        ObeysDisconnect (Page.new category token accessToken now) es ↔
      Guarded PageStep FailsAlone (Page.new category token accessToken now) es q := by
  have hnew := Page.coherent_new category token accessToken now
  have honce : (Page.new category token accessToken now).timers.length ≤ 1 := Nat.zero_le 1
  have hcleared : (Page.new category token accessToken now).Cleared := by
    intro t ht
    cases ht
  generalize Page.new category token accessToken now = p at hnew honce hcleared ⊢
  have halong : Guarded PageStep FailsAlone p es q ↔
      Guarded PageStep (fun p _ => p.timers.length ≤ 1) p es q ∧ q.timers.length ≤ 1 :=
    Guarded.iff_along (R := PageStep) (C := FailsAlone) (W := Page.Coherent)
      (fun h hst => h.step hst) (fun h hone hst => Page.oneTimer_iff h hone hst) hnew honce
  rw [Guarded.along_iff (R := PageStep) (I := fun p => p.timers.length ≤ 1)
    (fun h h' => Page.step_det h h')] at halong
  constructor
  · rintro ⟨run, hobeys⟩
    exact halong.2 ⟨run, fun before u hpre hsteps => (hobeys.orderly before u hpre hsteps).oneTimer⟩
  · intro run
    obtain ⟨hsteps, hone⟩ := halong.1 run
    refine ⟨hsteps, ?_, ?_⟩
    · intro before u hpre hu
      have hcoherent := hu.invariant (I := Page.Coherent) (fun h hst => h.step hst) hnew
      refine ⟨?_, hone before u hpre hu, hcoherent.pending⟩
      intro i j hi hj
      have hj' := hcoherent.source j hj
      rw [hcoherent.source i hi] at hj'
      exact Option.some.inj hj'
    · intro before after u r hpre hu hr hcalls
      obtain ⟨rest, rfl⟩ := hpre
      rw [List.append_assoc] at run
      obtain ⟨m, hm, _⟩ := run.split
      obtain ⟨hmc, hmk⟩ := hm.invariant (I := fun p => p.Coherent ∧ p.Cleared)
        (fun hc h hst => ⟨h.1.step hst, h.2.step h.1 hc hst⟩) ⟨hnew, hcleared⟩
      have hstep : Steps PageStep m [.disconnect] m.disconnect := .single rfl
      have hend := (hm.steps.append hstep).det hu fun h h' => Page.step_det h h'
      rw [← hend] at hr ⊢
      exact (hmk.silent_disconnect hmc).run hr hcalls

/-- A timer that was overwritten opens a source after the `disconnect`. -/
theorem timer_outlives_disconnect :
    ¬ ∀ es q, Steps PageStep (Page.new "tech" none (some "jwt") 0) es q →
      ObeysDisconnect (Page.new "tech" none (some "jwt") 0) es := by
  intro h
  have run : Steps PageStep (Page.new "tech" none (some "jwt") 0)
      [.connect, .failed 0, .wait 100, .connect, .failed 1, .wait 100, .disconnect, .wait 800,
        .fired 1] _ :=
    .cons rfl (.cons rfl (.cons rfl (.cons rfl (.cons rfl (.cons rfl (.cons rfl (.cons rfl
      (.cons rfl .nil))))))))
  have hlen := (h _ _ run).staysClosed
    [.connect, .failed 0, .wait 100, .connect, .failed 1, .wait 100] [.wait 800, .fired 1] _ _
    (List.prefix_refl _)
    (.cons rfl (.cons rfl (.cons rfl (.cons rfl (.cons rfl (.cons rfl (.cons rfl .nil)))))))
    (.cons rfl (.cons rfl .nil)) (by decide)
  cases hlen

end InstantBoard.Client
