import InstantBoard.Auth.Refresh

/-!
# Single use of a refresh token

Between the lookup of a token on the blacklist and its own write there, `refresh_token` waits for
the database, and a second request with the token that is looked up meanwhile is let through as
well (`twoRefreshes_not_singleUse`). Nothing else stands in the way of single use: in every run
whose lookups of the token find no other request on that stretch, and that takes the clock
readings of the token before its last second, the token is exchanged at most once and every later
request with it is turned away (`singleUse_of_spaced`).
-/

namespace InstantBoard.Auth

open Transition

/-- The request has been answered with new tokens for this one. -/
def Server.Exchanged (s : Server) (r : Nat) (token : Token) : Prop :=
  ∃ access refresh expiresIn,
    s.requests r = some ⟨token, .done (.tokens access refresh expiresIn)⟩

/-- Single use over a run from `s` to `t`: one exchange at most, and a request that starts after it
gets no further than its lookup. -/
structure SingleUse (token : Token) (s t : Server) : Prop where
  once : ∀ r r', t.Exchanged r token → t.Exchanged r' token → r = r'
  later : ∀ r r' phase, s.Exchanged r token → s.requests r' = none →
    t.requests r' = some ⟨token, phase⟩ →
    (∃ payload version, phase = .checking payload version) ∨
      ∃ message, phase = .done (.invalidRefreshToken message)

/-! ## Lookups apart from each other -/

/-- Between the lookup and the write. -/
def Phase.isOpen : Phase → Bool
  | .reading _ => true
  | .found _ _ => true
  | .blacklisting _ _ _ _ => true
  | _ => false

/-- The token's last second has not begun. -/
def Server.InTime (s : Server) (token : Token) : Prop :=
  ∀ c, token = .signed c → unix s.clock < c.exp

/-- The condition on a step: a lookup of the token finds no other request with it between lookup
and write, and the clock is read for it before its last second. -/
def Spaced (token : Token) (s : Server) : Label → Prop
  | .get r => ∀ phase, s.requests r = some ⟨token, phase⟩ →
    s.InTime token ∧
      ∀ r' phase', s.requests r' = some ⟨token, phase'⟩ → phase'.isOpen = false
  | .resume r => ∀ phase, s.requests r = some ⟨token, phase⟩ → s.InTime token
  | _ => True

/-! ## The invariant -/

/-- Past the lookup. -/
def Phase.isPast : Phase → Bool
  | .checking _ _ => false
  | .done (.invalidRefreshToken _) => false
  | _ => true

/-- The write is one that Redis takes. -/
def Phase.Timely : Phase → Prop
  | .blacklisting _ _ _ ttl => ttl ≠ 0
  | .done .error => False
  | _ => True

/-- At most one request with the token is past its lookup, and none has failed. -/
structure Sole (token : Token) (s : Server) : Prop where
  one : ∀ r r' phase phase', s.requests r = some ⟨token, phase⟩ →
    s.requests r' = some ⟨token, phase'⟩ → phase.isPast = true → phase'.isPast = true → r = r'
  timely : ∀ r phase, s.requests r = some ⟨token, phase⟩ → phase.Timely

/-- No request but `r` is past its lookup of the token. -/
def Server.Clear (s : Server) (token : Token) (r : Nat) : Prop :=
  ∀ r' phase, s.requests r' = some ⟨token, phase⟩ → phase.isPast = true → r' = r

/-- With a request past its exchange, the others are not on their way. -/
lemma Sole.clear {token : Token} {s : Server} (h : Sole token s) {r : Nat} {phase : Phase}
    (hr : s.requests r = some ⟨token, phase⟩) (hpast : phase.isPast = true) : s.Clear token r :=
  fun r' phase' hr' hpast' => h.one r' r phase' phase hr' hr hpast' hpast

/-- Moving a request keeps the invariant if the place it moves to is timely and, when past the
lookup, held by no other. -/
lemma Sole.setPhase {token : Token} {s t : Server} (h : Sole token s)
    (same : t.requests = s.requests) {r : Nat} {token' : Token} {phase : Phase}
    (new : token' = token → phase.Timely ∧ (phase.isPast = true → s.Clear token r)) :
    Sole token (t.setPhase r token' phase) := by
  constructor
  · intro r₁ r₂ phase₁ phase₂ h₁ h₂ hpast₁ hpast₂
    rcases requests_setPhase.1 h₁ with ⟨rfl, e₁⟩ | ⟨_, old₁⟩
    · cases e₁
      rcases requests_setPhase.1 h₂ with ⟨rfl, _⟩ | ⟨_, old₂⟩
      · rfl
      · rw [same] at old₂
        exact ((new rfl).2 hpast₁ r₂ phase₂ old₂ hpast₂).symm
    · rw [same] at old₁
      rcases requests_setPhase.1 h₂ with ⟨rfl, e₂⟩ | ⟨_, old₂⟩
      · cases e₂
        exact (new rfl).2 hpast₂ r₁ phase₁ old₁ hpast₁
      · rw [same] at old₂
        exact h.one r₁ r₂ phase₁ phase₂ old₁ old₂ hpast₁ hpast₂
  · intro r' phase' hr'
    rcases requests_setPhase.1 hr' with ⟨_, e⟩ | ⟨_, hr'⟩
    · cases e
      exact (new rfl).1
    · rw [same] at hr'
      exact h.timely r' phase' hr'

/-! ## One step -/

/-- A refresh token is admitted to the lookup and no further. -/
lemma receive_not_past {settings : Settings} {s : Server} (h : Issued s.signed) {token : Token}
    (hk : s.Knows token) :
    (AuthService.receive settings s.clock token).isPast = false ∧
      (AuthService.receive settings s.clock token).Timely := by
  rcases AuthService.receive_cases settings s.clock token with ⟨message, hrej⟩ | ⟨c, rfl, _, htype, hc⟩
  · rw [hrej]
    exact ⟨rfl, trivial⟩
  · rcases hc with ⟨version, _, hreceive⟩ | ⟨hv, _⟩
    · rw [hreceive]
      exact ⟨rfl, trivial⟩
    · have hc := hk c rfl
      simp [h.version c hc htype, h.named c hc] at hv

/-- A lookup that comes through in time finds the token exchanged by nobody. -/
lemma check_clear {token : Token} {s : Server} (hs : s.Sound) (h : Sole token s) {r : Nat}
    {c : Claims} (hspaced : Spaced token s (.get r))
    (hr : s.requests r = some ⟨token, .checking c c.jti⟩) (htok : token = .signed c)
    (hpast : (AuthService.check s.blacklist s.clock c c.jti).isPast = true) :
    s.Clear token r := by
  obtain ⟨hintime, hclosed⟩ := hspaced _ hr
  have hlt : unix s.clock < c.exp := hintime c htok
  -- another request past its lookup has written the entry that this lookup would have found
  intro r' phase hr' hpast'
  exfalso
  have hopen := hclosed r' phase hr'
  have htimely := h.timely r' phase hr'
  -- past the lookup and not on the stretch: the token has been revoked
  have hrev : s.Revoked c := by
    rcases hs.requests r' _ hr' with ⟨message, hdone⟩ | ⟨c', _, htok', _, hphase⟩
    · cases hdone
      cases hpast'
    · rw [htok] at htok'
      cases htok'
      cases phase with
      | checking => cases hpast'
      | reading => cases hopen
      | found => cases hopen
      | blacklisting => cases hopen
      | issuing => exact hphase.2 hlt
      | done outcome =>
        cases outcome with
        | tokens => exact hphase hlt
        | invalidRefreshToken => cases hpast'
        | error => cases htimely
  have hlasts : Expiring.Lasts s.blacklist (tokenBlacklistKey c.jti) s.clock := by
    apply hrev.mono
    unfold unix at hlt
    omega
  have hblacklisted : isBlacklisted s.blacklist s.clock c.jti = true :=
    Expiring.get_isSome_iff.2 hlasts
  rw [AuthService.check, if_pos hblacklisted] at hpast
  cases hpast

/-- Before the token's last second its revocation is written in time. -/
lemma revoke_timely {s : Server} {token : Token} {c : Claims} {user : Option User}
    (htok : token = .signed c) (hlt : unix s.clock < c.exp) :
    (AuthService.revoke s.clock token c user).Timely := by
  cases user with
  | none => trivial
  | some user =>
    have hdec : decodeToken s.clock token = some c :=
      decodeToken_eq_some.2 ⟨htok, Nat.le_of_lt hlt⟩
    simp only [AuthService.revoke, hdec]
    split
    · trivial
    · show remainingSeconds s.clock c ≠ 0
      unfold remainingSeconds
      omega

/-- A step under the condition keeps the invariant. -/
lemma Sole.step {settings : Settings} {token : Token} {s t : Server} {a : Label} (hs : s.Sound)
    (h : Sole token s) (hspaced : Spaced token s a) (hst : Step settings s a t) : Sole token t := by
  cases hst with
  | tick => exact ⟨h.one, h.timely⟩
  | users => exact ⟨h.one, h.timely⟩
  | login => exact ⟨h.one, h.timely⟩
  | enter _ hk =>
    apply h.setPhase rfl
    intro _
    obtain ⟨hpast, htimely⟩ := @receive_not_past settings _ hs.issued _ hk
    exact ⟨htimely, fun hp => by rw [hpast] at hp; cases hp⟩
  | get hr =>
    obtain ⟨c, _, htok, _, rfl, rfl⟩ := hs.waiting hr (by simp)
    apply h.setPhase rfl
    rintro rfl
    refine ⟨?_, check_clear hs h hspaced hr htok⟩
    unfold AuthService.check
    split <;> trivial
  | select hr =>
    apply h.setPhase rfl
    rintro rfl
    exact ⟨trivial, fun _ => h.clear hr rfl⟩
  | resume hr =>
    obtain ⟨c, _, htok, _, rfl⟩ := hs.waiting hr (by simp)
    apply h.setPhase rfl
    rintro rfl
    exact ⟨revoke_timely htok (hspaced _ hr _ htok), fun _ => h.clear hr rfl⟩
  | set hr hb =>
    rename_i b
    apply h.setPhase (t := { s with blacklist := b }) rfl
    rintro rfl
    exact ⟨trivial, fun _ => h.clear hr rfl⟩
  -- Redis refuses a lifetime of zero only, and this write was computed in time
  | refused hr hb =>
    apply h.setPhase rfl
    rintro rfl
    exact absurd (Expiring.set_eq_none_iff.1 hb) (h.timely _ _ hr)
  | issue hr =>
    apply h.setPhase (t := s.sign settings _ _ _) rfl
    rintro rfl
    exact ⟨trivial, fun _ => h.clear hr rfl⟩

/-- An answered request stays answered. -/
lemma Step.done {settings : Settings} {s t : Server} {a : Label} (hst : Step settings s a t)
    {r : Nat} {token : Token} {outcome : Outcome}
    (hr : s.requests r = some ⟨token, .done outcome⟩) :
    t.requests r = some ⟨token, .done outcome⟩ := by
  have other : ∀ {s' : Server} {r' token' phase phase'}, s'.requests = s.requests →
      (s.requests r' = none ∨ s.requests r' = some ⟨token', phase⟩ ∧ ∀ o, phase ≠ .done o) →
      (s'.setPhase r' token' phase').requests r = some ⟨token, .done outcome⟩ := by
    intro s' r' token' phase phase' same hr'
    apply requests_setPhase.2
    refine .inr ⟨?_, by rw [same]; exact hr⟩
    rintro rfl
    rcases hr' with hr' | ⟨hr', hne⟩
    · rw [hr] at hr'
      cases hr'
    · rw [hr] at hr'
      cases hr'
      exact hne _ rfl
  cases hst with
  | tick => exact hr
  | users => exact hr
  | login => exact hr
  | enter hr' => exact @other _ _ _ (.done outcome) _ rfl (.inl hr')
  | get hr' => exact other rfl (.inr ⟨hr', by simp⟩)
  | select hr' => exact other rfl (.inr ⟨hr', by simp⟩)
  | resume hr' => exact other rfl (.inr ⟨hr', by simp⟩)
  | set hr' => exact other rfl (.inr ⟨hr', by simp⟩)
  | refused hr' => exact other rfl (.inr ⟨hr', by simp⟩)
  | issue hr' => exact other rfl (.inr ⟨hr', by simp⟩)

/-- An exchange is not undone. -/
lemma Server.Exchanged.steps {settings : Settings} {s t : Server} {ls : List Label} {r : Nat}
    {token : Token} (h : s.Exchanged r token) (run : Steps (Step settings) s ls t) :
    t.Exchanged r token := by
  obtain ⟨access, refresh, expiresIn, hr⟩ := h
  refine ⟨access, refresh, expiresIn, ?_⟩
  apply run.invariant (I := fun s =>
    s.requests r = some ⟨token, .done (.tokens access refresh expiresIn)⟩) _ hr
  exact fun h hst => hst.done h

/-! ## Runs -/

/-- A run of spaced requests keeps the token's request the only one. -/
lemma sole_of_guarded {settings : Settings} {token : Token} {s t : Server} {ls : List Label}
    (run : Guarded (Step settings) (Spaced token) s ls t) (hs : s.Sound) (h : Sole token s) :
    t.Sound ∧ Sole token t :=
  run.invariant (I := fun s => s.Sound ∧ Sole token s)
    (fun hc h hst => ⟨hst.sound h.1, h.2.step h.1 hc hst⟩) ⟨hs, h⟩

/-- In every run whose lookups of a token keep apart, the token is used once. -/
theorem singleUse_of_spaced {settings : Settings} {token : Token} {clock : Nat}
    {users : String → Option User} {s t : Server} {ls ms : List Label}
    (before : Guarded (Step settings) (Spaced token) (Server.init clock users) ls s)
    (after : Guarded (Step settings) (Spaced token) s ms t) : SingleUse token s t := by
  have hinit : Sole token (Server.init clock users) :=
    ⟨fun _ _ _ _ h => by (cases h), fun _ _ h => by (cases h)⟩
  obtain ⟨hs, hsole⟩ := sole_of_guarded before (Server.sound_init clock users) hinit
  obtain ⟨_, hsole'⟩ := sole_of_guarded after hs hsole
  constructor
  · rintro r r' ⟨_, _, _, hr⟩ ⟨_, _, _, hr'⟩
    exact hsole'.one r r' _ _ hr hr' rfl rfl
  · intro r r' phase hex hfree hr'
    obtain ⟨_, _, _, hr⟩ := hex.steps after.steps
    have hne : r' ≠ r := by
      rintro rfl
      obtain ⟨_, _, _, hs⟩ := hex
      rw [hs] at hfree
      cases hfree
    have hnot : phase.isPast ≠ true := fun hpast => hne (hsole'.clear hr rfl r' phase hr' hpast)
    cases phase with
    | checking payload version => exact .inl ⟨payload, version, rfl⟩
    | done outcome =>
      cases outcome with
      | invalidRefreshToken message => exact .inr ⟨message, rfl⟩
      | tokens => exact absurd rfl hnot
      | error => exact absurd rfl hnot
    | reading => exact absurd rfl hnot
    | found => exact absurd rfl hnot
    | blacklisting => exact absurd rfl hnot
    | issuing => exact absurd rfl hnot

/-! ## Two requests at once -/

namespace TwoRefreshes

open Sample

/-- The refresh token of the login. -/
def token : Token := .signed (createRefreshToken settings 0 "b" data)

/-- The server knows the token it has signed. -/
lemma knows {s : Server} (h : createRefreshToken settings 0 "b" data ∈ s.signed) :
    s.Knows token := by
  intro c hc
  cases hc
  exact h

/-- The two ids are not in use. -/
lemma fresh_login : (Server.init 0 users).Fresh "a" "b" :=
  ⟨by decide, by decide, by decide, fun _ hc => absurd hc List.not_mem_nil⟩

/-- Both requests are looked up before either writes. -/
def together : List Label :=
  [.login data "a" "b", .enter 0 token, .enter 1 token, .get 0, .get 1, .select 0, .select 1,
    .resume 0, .resume 1, .set 0, .set 1, .issue 0 "c" "d", .issue 1 "e" "f"]

/-- Two requests at once are both served. -/
lemma both : ∃ s, Steps (Step settings) (Server.init 0 users) together s ∧
    s.Exchanged 0 token ∧ s.Exchanged 1 token := by
  refine ⟨_, .cons (.login fresh_login) <|
    .cons (.enter rfl (knows (List.mem_cons_of_mem _ List.mem_cons_self))) <|
    .cons (.enter rfl (knows (List.mem_cons_of_mem _ List.mem_cons_self))) <|
    .cons (.get rfl) <| .cons (.get rfl) <| .cons (.select rfl) <| .cons (.select rfl) <|
    .cons (.resume rfl) <| .cons (.resume rfl) <| .cons (.set rfl rfl) <| .cons (.set rfl rfl) <|
    .cons (.issue rfl ?_) <| .cons (.issue rfl ?_) .nil, ?_, ?_⟩
  · exact ⟨by decide, by decide, by decide, by decide⟩
  · exact ⟨by decide, by decide, by decide, by decide⟩
  · exact ⟨_, _, _, rfl⟩
  · exact ⟨_, _, _, rfl⟩

/-- One request after the other. -/
def first : List Label :=
  [.login data "a" "b", .enter 0 token, .get 0, .select 0, .resume 0, .set 0, .issue 0 "c" "d"]

def second : List Label :=
  [.enter 1 token, .get 1]

/-- The token is in time for a week. -/
lemma inTime {s : Server} (h : unix s.clock < 604800) : s.InTime token := by
  intro c hc
  cases hc
  exact h

/-- One request after the other. -/
lemma apart : ∃ s t, Guarded (Step settings) (Spaced token) (Server.init 0 users) first s ∧
    Guarded (Step settings) (Spaced token) s second t ∧ s.Exchanged 0 token := by
  refine ⟨_, _, .cons trivial (.login fresh_login) <|
    .cons trivial (.enter rfl (knows (List.mem_cons_of_mem _ List.mem_cons_self))) <|
    .cons ?_ (.get rfl) <| .cons trivial (.select rfl) <| .cons ?_ (.resume rfl) <|
    .cons trivial (.set rfl rfl) <| .cons trivial (.issue rfl ?_) .nil,
    .cons trivial (.enter rfl (knows ?_)) <| .cons ?_ (.get rfl) .nil,
    _, _, _, rfl⟩
  · refine fun _ _ => ⟨inTime (by decide), fun r' phase' h => ?_⟩
    rcases requests_setPhase.1 h with ⟨_, e⟩ | ⟨_, h⟩
    · cases e
      rfl
    · cases h
  · exact fun _ _ => inTime (by decide)
  · exact ⟨by decide, by decide, by decide, by decide⟩
  · apply List.mem_cons_of_mem
    apply List.mem_cons_of_mem
    exact List.mem_cons_of_mem _ List.mem_cons_self
  · refine fun _ _ => ⟨inTime (by decide), fun r' phase' h => ?_⟩
    rcases requests_setPhase.1 h with ⟨_, e⟩ | ⟨_, h⟩
    · cases e
      rfl
    · rcases requests_setPhase.1 h with ⟨_, e⟩ | ⟨hne, h⟩
      · cases e
        rfl
      · simp [Server.setPhase, Server.sign, Server.init, hne] at h

end TwoRefreshes

open TwoRefreshes Sample in
/-- The rule on a token used twice, one request after the other. -/
theorem singleUse_apart : ∃ s t, Steps (Step settings) (Server.init 0 users) first s ∧
    Steps (Step settings) s second t ∧ s.Exchanged 0 token ∧ SingleUse token s t := by
  obtain ⟨s, t, before, after, hex⟩ := apart
  exact ⟨s, t, before.steps, after.steps, hex, singleUse_of_spaced before after⟩

open TwoRefreshes Sample in
/-- Two requests that are looked up together are both answered with new tokens. -/
theorem twoRefreshes_not_singleUse :
    ¬ ∀ (settings : Settings) (token : Token) (clock : Nat) (users : String → Option User)
        (s t : Server) (ls ms : List Label), Steps (Step settings) (Server.init clock users) ls s →
        Steps (Step settings) s ms t → SingleUse token s t := by
  intro h
  obtain ⟨s, run, h₀, h₁⟩ := both
  have huse := h settings token 0 users s s together [] run .nil
  exact absurd (huse.once 0 1 h₀ h₁) (by decide)

end InstantBoard.Auth
