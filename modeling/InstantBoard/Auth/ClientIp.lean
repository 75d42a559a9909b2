import InstantBoard.Auth.AdminLogin

/-!
# The address of a client

`get_client_ip` behind one trusted proxy, which appends the peer's address to what the client sent as
`X-Forwarded-For`. The last hop is the peer's, and no text before it is looked at (`getClientIp_forward`),
so the login counters by address are those of the peers (`keyed_by_peer`).
-/

namespace InstantBoard.Auth

open Transition

/-- The parts of a request that `get_client_ip` reads. -/
structure HttpRequest where
  forwardedFor : Option String
  clientHost : Option String

section

variable (ipAddress : String → Bool)

/-- `get_client_ip`; `ipAddress` says whether `ipaddress.ip_address` takes a text. -/
def getClientIp (request : HttpRequest) : String :=
  let hop :=
    match request.forwardedFor.filter (· ≠ "") with
    | none => none
    | some forwardedFor =>
      ((Text.split forwardedFor ',').reverse.map Text.strip).find? fun candidate =>
        candidate ≠ "" && ipAddress candidate
  match hop with
  | some candidate => candidate
  | none => (request.clientHost.filter (· ≠ "")).getD "unknown"

/-- A hexadecimal digit, a dot or a colon. -/
def AddressChar (c : Char) : Prop :=
  c.toNat = 46 ∨ (48 ≤ c.toNat ∧ c.toNat ≤ 58) ∨ (65 ≤ c.toNat ∧ c.toNat ≤ 70) ∨
    (97 ≤ c.toNat ∧ c.toNat ≤ 102)

instance : DecidablePred AddressChar :=
  fun _ => inferInstanceAs (Decidable (_ ∨ _))

/-- The address of a peer as the proxy writes it. -/
structure PeerAddress where
  text : String
  valid : ipAddress text = true
  ne_empty : text ≠ ""
  chars : ∀ c ∈ text.toList, AddressChar c

/-- `X-Forwarded-For` after the proxy: what the client sent of it, and the peer. -/
def forward (sent : Option String) (peer : String) : String :=
  match sent with
  | none => peer
  | some text => text ++ ", " ++ peer

end

/-! ## The last hop -/

/-- No character of an address is whitespace. -/
lemma AddressChar.not_isSpace {c : Char} (h : AddressChar c) : ¬ Text.isSpace c = true := by
  unfold AddressChar at h
  simp only [Text.isSpace, Bool.or_eq_true, Bool.and_eq_true, decide_eq_true_eq, beq_iff_eq]
  omega

/-- No character of an address is a comma. -/
lemma AddressChar.ne_comma {c : Char} (h : AddressChar c) : c ≠ ',' := by
  rintro rfl
  unfold AddressChar at h
  have hcomma : ','.toNat = 44 := rfl
  omega

section

variable {ipAddress : String → Bool}

/-- The peer's address has no comma. -/
lemma PeerAddress.comma_not_mem (peer : PeerAddress ipAddress) : ',' ∉ peer.text.toList := by
  intro h
  exact (peer.chars ',' h).ne_comma rfl

/-- White space before an address is stripped, and nothing of the address. -/
lemma PeerAddress.strip_append (peer : PeerAddress ipAddress) {before : List Char}
    (h : ∀ c ∈ before, Text.isSpace c = true) :
    Text.strip (String.ofList (before ++ peer.text.toList)) = peer.text := by
  have hkeep : peer.text.toList.dropWhile Text.isSpace = peer.text.toList := by
    apply List.dropWhile_eq_self_iff.2
    intro hpos hspace
    exact (peer.chars _ (List.getElem_mem hpos)).not_isSpace hspace
  have hend : peer.text.toList.rdropWhile Text.isSpace = peer.text.toList := by
    apply List.rdropWhile_eq_self_iff.2
    intro hne hspace
    exact (peer.chars _ (List.getLast_mem hne)).not_isSpace hspace
  unfold Text.strip
  rw [String.toList_ofList, List.dropWhile_append_of_pos h, hkeep, hend, String.ofList_toList]

/-- The peer's address is the first hop that is an address. -/
lemma PeerAddress.find?_cons (peer : PeerAddress ipAddress) (hops : List String) :
    (peer.text :: hops).find? (fun candidate => candidate ≠ "" && ipAddress candidate) =
      some peer.text := by
  apply List.find?_cons_of_pos
  rw [decide_eq_true peer.ne_empty, peer.valid]
  rfl

/-- The last piece of the header is the peer, perhaps behind a space. -/
lemma PeerAddress.split_forward (peer : PeerAddress ipAddress) (sent : Option String) :
    ∃ (before : List String) (blank : List Char), (∀ c ∈ blank, Text.isSpace c = true) ∧
      Text.split (forward sent peer.text) ',' =
        before ++ [String.ofList (blank ++ peer.text.toList)] := by
  unfold Text.split
  cases sent with
  | none =>
    refine ⟨[], [], nofun, ?_⟩
    show (peer.text.toList.splitOn ',').map String.ofList = _
    rw [List.splitOn_eq_singleton peer.comma_not_mem]
    rfl
  | some text =>
    refine ⟨(text.toList.splitOn ',').map String.ofList, [' '], ?_, ?_⟩
    · intro c hc
      rw [List.mem_singleton.1 hc]
      rfl
    · have hheader : (forward (some text) peer.text).toList =
          text.toList ++ ',' :: ' ' :: peer.text.toList := by
        unfold forward
        rw [String.toList_append, String.toList_append, List.append_assoc]
        rfl
      have hpiece : ',' ∉ ' ' :: peer.text.toList := by
        rw [List.mem_cons, not_or]
        exact ⟨by decide, peer.comma_not_mem⟩
      rw [hheader, List.splitOn_append_cons_self, List.splitOn_eq_singleton hpiece, List.map_append]
      rfl

/-- The header that the proxy sends is not empty. -/
lemma PeerAddress.forward_ne_empty (peer : PeerAddress ipAddress) (sent : Option String) :
    forward sent peer.text ≠ "" := by
  cases sent with
  | none => exact peer.ne_empty
  | some text =>
    intro h
    unfold forward at h
    exact peer.ne_empty (String.append_eq_empty_iff.1 h).2

/-- Behind the proxy the address of a client is that of the peer, whatever was sent. -/
lemma getClientIp_forward (sent : Option String) (peer : PeerAddress ipAddress)
    (clientHost : Option String) :
    getClientIp ipAddress ⟨some (forward sent peer.text), clientHost⟩ = peer.text := by
  obtain ⟨before, blank, hblank, hsplit⟩ := peer.split_forward sent
  have hheader : (some (forward sent peer.text)).filter (· ≠ "") =
      some (forward sent peer.text) :=
    Option.filter_some_pos (decide_eq_true (peer.forward_ne_empty sent))
  unfold getClientIp
  dsimp only
  rw [hheader]
  dsimp only
  rw [hsplit, List.reverse_append, List.reverse_singleton, List.singleton_append, List.map_cons,
    peer.strip_append hblank, peer.find?_cons]

end

/-! ## The counters by address -/

namespace AdminLogin

variable (ipAddress : String → Bool)

/-- A login request that came through the proxy. -/
structure Arrival where
  email : String
  password : String
  sent : Option String
  peer : PeerAddress ipAddress
  clientHost : Option String

variable {ipAddress}

/-- The endpoint calls `admin_login` with the address of the client. -/
def Arrival.label (a : Arrival ipAddress) : Label :=
  .enter a.email (getClientIp ipAddress ⟨some (forward a.sent a.peer.text), a.clientHost⟩) a.password

/-- The label is not that of a request coming in. -/
def Label.Inside : Label → Prop
  | .enter _ _ _ => False
  | _ => True

variable (ipAddress) in
/-- What happens to the server: a request comes in, or one goes on, or the clock does. -/
inductive Event where
  | arrival (a : Arrival ipAddress)
  | inside (l : Label) (h : l.Inside)

def Event.label : Event ipAddress → Label
  | .arrival a => a.label
  | .inside l _ => l

/-- The peers the requests came from, in the order of the requests. -/
def peers (events : List (Event ipAddress)) : List String :=
  events.filterMap fun e =>
    match e with
    | .arrival a => some a.peer.text
    | .inside _ _ => none

/-- The addresses the attempts hold. -/
def Server.addresses (s : Server) : List String :=
  s.attempts.map (·.clientIp)

/-- The keys by address belong to addresses of attempts. -/
def Server.KeyedByAddress (s : Server) : Prop :=
  ∀ k ip, k = .adminLoginFailIp ip ∨ k = .adminLoginLockIp ip → s.redis k ≠ none →
    ip ∈ s.addresses

/-- An attempt keeps its address in every phase. -/
lemma addresses_setPhase {s t : Server} (ht : t.attempts = s.attempts) {i : Nat} {a : Attempt}
    (h : s.attempts[i]? = some a) (phase : Phase) :
    (t.setPhase i a phase).addresses = s.addresses := by
  unfold Server.addresses Server.setPhase
  dsimp only
  rw [ht, List.map_set]
  apply List.ext_getElem?
  intro j
  rcases Nat.decEq i j with hne | rfl
  · rw [List.getElem?_set_ne hne]
  · rw [List.getElem?_set_self', List.getElem?_map, h]
    rfl

/-- The key of a client that an attempt has is that of its own address. -/
lemma eq_clientIp_of_key {d : Dimension} {a : Attempt} {k : RedisKeys} {ip : String}
    (hk : k = .adminLoginFailIp ip ∨ k = .adminLoginLockIp ip)
    (h : d.counterKey a = k ∨ d.lockKey a = k) : ip = a.clientIp := by
  cases d with
  | email =>
    rcases hk with rfl | rfl
    · rcases h with h | h <;> cases h
    · rcases h with h | h <;> cases h
  | ip =>
    rcases hk with rfl | rfl
    · rcases h with h | h
      · exact (RedisKeys.adminLoginFailIp.inj h).symm
      · cases h
    · rcases h with h | h
      · cases h
      · exact (RedisKeys.adminLoginLockIp.inj h).symm

/-- A piece of an attempt makes no key by address but the attempt's own. -/
lemma exec_of_ip_key {env : Env} {now : Nat} {redis : Redis} {a : Attempt} {k : RedisKeys}
    {ip : String} (hk : k = .adminLoginFailIp ip ∨ k = .adminLoginLockIp ip)
    (h : (exec env now redis a).1 k ≠ none) : ip = a.clientIp ∨ redis k ≠ none := by
  by_cases htouched : a.touched = some k
  · left
    unfold Attempt.touched at htouched
    split at htouched
    next d _ => exact eq_clientIp_of_key hk (.inl (Option.some.inj htouched))
    next d _ _ => exact eq_clientIp_of_key hk (.inl (Option.some.inj htouched))
    next d _ => exact eq_clientIp_of_key hk (.inr (Option.some.inj htouched))
    next =>
      rcases hk with rfl | rfl
      · cases htouched
      · cases htouched
    all_goals cases htouched
  · right
    rwa [exec_of_not_touched htouched] at h

/-- A command writes under the attempt's own address. -/
lemma Server.KeyedByAddress.apply {env : Env} {s : Server} {i : Nat} {a : Attempt}
    (h : s.KeyedByAddress) (hi : s.attempts[i]? = some a) : (s.apply env a).KeyedByAddress := by
  intro k ip hk hsome
  rcases exec_of_ip_key hk hsome with rfl | hold
  · exact List.mem_map_of_mem (List.mem_of_getElem? hi)
  · exact h k ip hk hold

/-- A command that is broken off writes under the attempt's own address, if at all. -/
lemma Server.KeyedByAddress.interrupt {env : Env} {s : Server} {i : Nat} {a : Attempt}
    (h : s.KeyedByAddress) (hi : s.attempts[i]? = some a) (applied : Bool) :
    (s.interrupt env a applied).KeyedByAddress ∧
      (s.interrupt env a applied).attempts = s.attempts := by
  unfold Server.interrupt
  split
  · exact ⟨h.apply hi, rfl⟩
  · exact ⟨h, rfl⟩

/-- A change of phase writes no key. -/
lemma Server.KeyedByAddress.setPhase {s t : Server} (h : t.KeyedByAddress)
    (ht : t.attempts = s.attempts) {i : Nat} {a : Attempt} (hi : s.attempts[i]? = some a)
    (phase : Phase) : (t.setPhase i a phase).KeyedByAddress := by
  intro k ip hk hsome
  rw [addresses_setPhase ht hi, Server.addresses, ← ht]
  exact h k ip hk hsome

/-- One step: the addresses grow by that of a request coming in. -/
lemma Step.addresses {env : Env} {s t : Server} {e : Event ipAddress}
    (hst : Step env s e.label t) (h : s.KeyedByAddress) :
    t.addresses = s.addresses ++ peers [e] ∧ t.KeyedByAddress := by
  cases e with
  | arrival a =>
    cases hst
    have haddresses : (s.addresses ++ [a.peer.text]) =
        (s.attempts ++ [receive env a.email (getClientIp ipAddress
          ⟨some (forward a.sent a.peer.text), a.clientHost⟩) a.password]).map (·.clientIp) := by
      rw [List.map_append, getClientIp_forward]
      rfl
    refine ⟨haddresses.symm, ?_⟩
    intro k ip hk hsome
    rw [Server.addresses, ← haddresses]
    exact List.mem_append_left _ (h k ip hk hsome)
  | inside l hl =>
    have hstepped : Stepped env s l t := Step.stepped hst
    show t.addresses = s.addresses ++ [] ∧ _
    rw [List.append_nil]
    cases hstepped with
    | tick => exact ⟨rfl, h⟩
    | enter => exact hl.elim
    | run hi _ =>
      exact ⟨addresses_setPhase rfl hi _, (h.apply hi).setPhase rfl hi _⟩
    | @fail i a applied hi _ =>
      obtain ⟨hkeyed, hattempts⟩ := h.interrupt hi applied
      exact ⟨addresses_setPhase hattempts hi _, hkeyed.setPhase hattempts hi _⟩
    | @cancel i a applied hi _ =>
      obtain ⟨hkeyed, hattempts⟩ := h.interrupt hi applied
      exact ⟨addresses_setPhase hattempts hi _, hkeyed.setPhase hattempts hi _⟩

/-- A run: the addresses are those of the peers. -/
lemma Steps.addresses {env : Env} {s t : Server} {events : List (Event ipAddress)}
    (hrun : Steps (Step env) s (events.map Event.label) t) (h : s.KeyedByAddress) :
    t.addresses = s.addresses ++ peers events ∧ t.KeyedByAddress := by
  induction events generalizing s with
  | nil =>
    cases hrun
    exact ⟨(List.append_nil _).symm, h⟩
  | cons e events ih =>
    cases hrun with
    | cons hst hrest =>
      obtain ⟨hone, hkeyed⟩ := Step.addresses hst h
      obtain ⟨hall, hkeyed'⟩ := ih hrest hkeyed
      refine ⟨?_, hkeyed'⟩
      have hpeers : peers (e :: events) = peers [e] ++ peers events :=
        @List.filterMap_append _ _ [e] events _
      rw [hall, hone, hpeers, List.append_assoc]

/-- The address of a client is its peer's, whatever it sent, and in every run the login attempts, their
counters and their locks by address are those of the peers. -/
theorem keyed_by_peer {env : Env} {clock : Nat} {events : List (Event ipAddress)} {s : Server}
    (hrun : Steps (Step env) (Server.init clock) (events.map Event.label) s) :
    (∀ (sent : Option String) (peer : PeerAddress ipAddress) (clientHost : Option String),
      getClientIp ipAddress ⟨some (forward sent peer.text), clientHost⟩ = peer.text) ∧
    s.attempts.map (·.clientIp) = peers events ∧
    (∀ (i : Nat) a ip, s.attempts[i]? = some a → (peers events)[i]? = some ip →
      Dimension.ip.counterKey a = .adminLoginFailIp ip ∧
        Dimension.ip.lockKey a = .adminLoginLockIp ip) ∧
    ∀ ip, s.redis (.adminLoginFailIp ip) ≠ none ∨ s.redis (.adminLoginLockIp ip) ≠ none →
      ip ∈ peers events := by
  have hinit : (Server.init clock).KeyedByAddress := fun _ _ _ hsome => absurd rfl hsome
  obtain ⟨haddresses, hkeyed⟩ := Steps.addresses hrun hinit
  have hpeers : s.attempts.map (·.clientIp) = peers events := haddresses
  refine ⟨getClientIp_forward, hpeers, ?_, ?_⟩
  · intro i a ip ha hip
    rw [← hpeers, List.getElem?_map, ha] at hip
    cases hip
    exact ⟨rfl, rfl⟩
  · intro ip h
    rw [← hpeers]
    rcases h with h | h
    · exact hkeyed _ ip (.inl rfl) h
    · exact hkeyed _ ip (.inr rfl) h

namespace Sample

/-- The two addresses below are well-formed. -/
def isAddress (text : String) : Bool :=
  text = "203.0.113.9" || text = "198.51.100.1"

def peer : PeerAddress isAddress where
  text := "203.0.113.9"
  valid := rfl
  ne_empty := by decide
  chars := by
    have hall : ("203.0.113.9".toList.all fun c => AddressChar c) = true := by decide
    intro c hc
    exact of_decide_eq_true (List.all_eq_true.1 hall c hc)

/-- A login whose header names another address, and a second hop that is none. -/
def forged : Arrival isAddress :=
  { email := "root@x.io", password := "guess", sent := some "198.51.100.1, ,unknown", peer,
    clientHost := some "172.18.0.2" }

end Sample

open AdminLogin.Sample in
/-- A forged header leaves the attempt with the peer's address. -/
theorem forged_login_keyed_by_peer :
    ∃ s, Steps (Step env) (Server.init 0) ([Event.arrival forged].map Event.label) s ∧
      s.attempts.map (·.clientIp) = ["203.0.113.9"] := by
  have hrun : Steps (Step env) (Server.init 0) ([Event.arrival forged].map Event.label)
      { Server.init 0 with
        attempts := [receive env "root@x.io" (getClientIp isAddress
          ⟨some (forward forged.sent peer.text), some "172.18.0.2"⟩) "guess"] } :=
    .single rfl
  exact ⟨_, hrun, (keyed_by_peer hrun).2.1⟩

end AdminLogin

end InstantBoard.Auth
