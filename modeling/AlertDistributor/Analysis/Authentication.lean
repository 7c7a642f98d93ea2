import AlertDistributor.Analysis.ConnectionAuthority
import AlertDistributor.Analysis.HandleSocket
import AlertDistributor.Analysis.ServerSteps

/-!
# Who is let in

A request is accepted exactly when its bearer token is decoded, names a user and an
organization, and the user can see a unit there at that moment (`wsHandler_eq_ok_iff`).  In
every run the connections are, one for one, those of the accepted requests: none is opened
without a token and none is opened twice for one (`authenticated_serverRun`).  A request is one
that comes to `ws_handler`, so it asks for a WebSocket.
-/

set_option autoImplicit false

namespace AlertDistributor.Analysis

open AlertDistributor.Model AlertDistributor.Interface AlertDistributor.System FiniteMap

/-! ## The header -/

/-- A prefix is stripped from what begins with it. -/
theorem stripPrefix_eq_some_iff {pattern s rest : String} :
    stripPrefix pattern s = some rest ↔ s = pattern ++ rest := by
  unfold stripPrefix
  constructor
  · intro h
    split at h
    · rename_i hstarts
      obtain rfl := Option.some.inj h
      obtain ⟨tail, htail⟩ := hstarts
      apply String.toList_inj.mp
      rw [← htail, String.toList_append, String.toList_ofList, List.drop_left]
    · cases h
  · rintro rfl
    rw [String.toList_append, if_pos (List.prefix_append _ _), List.drop_left, String.ofList_toList]

/-- A header that starts with one of the two words does not start with the other. -/
theorem bearer_or_eq_some_iff {bearer token : String} :
    (stripPrefix "Bearer " bearer).or (stripPrefix "bearer " bearer) = some token ↔
      bearer = "Bearer " ++ token ∨ bearer = "bearer " ++ token := by
  rw [Option.or_eq_some_iff, stripPrefix_eq_some_iff, stripPrefix_eq_some_iff]
  refine or_congr_right ⟨fun h => h.2, fun h => ⟨?_, h⟩⟩
  subst h
  apply Option.eq_none_iff_forall_ne_some.mpr
  intro rest hrest
  have heads := congrArg String.toList (stripPrefix_eq_some_iff.mp hrest)
  simp at heads

/-- `ok_or` succeeds on a value only. -/
theorem okOr_eq_ok_iff {α : Type} {error : AuthError} {x : Option α} {a : α} :
    okOr error x = .ok a ↔ x = some a := by
  cases x with
  | none => simp [okOr]
  | some b => simp [okOr]

/-- Mapping the error leaves the successes. -/
theorem mapError_eq_ok_iff {ε ε' α : Type} {f : ε → ε'} {x : Except ε α} {a : α} :
    x.mapError f = .ok a ↔ x = .ok a := by
  cases x with
  | error e => simp [Except.mapError]
  | ok b => simp [Except.mapError]

/-- The token of a header and what it names. -/
structure TokenNames (validator : JwtValidator) (now : ℕ) (bearer : String) (auth : AuthContext)
    (token : String) (claims : JwtClaims) : Prop where
  header : bearer = "Bearer " ++ token ∨ bearer = "bearer " ++ token
  decoded : validator.decode now token = .ok claims
  /-- `user_id` is looked at first, and `sub` only if it is absent. -/
  user : (claims.userId.or claims.sub).bind validator.parseUuid = some auth.userId
  organization : claims.organizationId.bind validator.parseUuid = some auth.organizationId

/-- **A header is accepted exactly when its token names a user and an organization.** -/
theorem validateBearer_eq_ok_iff {validator : JwtValidator} {now : ℕ} {bearer : String}
    {auth : AuthContext} :
    validator.validateBearer now bearer = .ok auth ↔
      ∃ token claims, TokenNames validator now bearer auth token claims := by
  unfold JwtValidator.validateBearer
  simp only [bind_eq_ok_iff, okOr_eq_ok_iff, mapError_eq_ok_iff, bearer_or_eq_some_iff]
  constructor
  · rintro ⟨token, hheader, claims, hdecoded, user, huser, org, horg, userId, huserId, orgId,
      horgId, heq⟩
    obtain rfl := Except.ok.inj heq
    refine ⟨token, claims, hheader, hdecoded, ?_, ?_⟩
    · rw [huser]
      exact huserId
    · rw [horg]
      exact horgId
  · rintro ⟨token, claims, hheader, hdecoded, huser, horg⟩
    obtain ⟨user, huser, huserId⟩ := Option.bind_eq_some_iff.mp huser
    obtain ⟨org, horg, horgId⟩ := Option.bind_eq_some_iff.mp horg
    exact ⟨token, hheader, claims, hdecoded, user, huser, org, horg, auth.userId, huserId,
      auth.organizationId, horgId, rfl⟩

/-! ## The request -/

section Request

variable {Payload Json HeaderValue : Type} {env : ServerEnv Payload Json HeaderValue}

/-- What stands behind an accepted request. -/
structure Authorized (env : ServerEnv Payload Json HeaderValue) (cache : State) (now : ℕ)
    (authorization : Option HeaderValue) (upgrade : Upgrade) : Prop where
  token : ∃ header, authorization.bind env.toStr = some header ∧ ∃ token claims,
    TokenNames env.jwtValidator now header ⟨upgrade.userId, upgrade.organizationId⟩ token claims
  units : upgrade.unitIds = cache.unitsFor upgrade.organizationId upgrade.userId
  someUnit : upgrade.unitIds ≠ []

/-- **A request is accepted exactly for a token of a user who can see a unit.** -/
theorem wsHandler_eq_ok_iff {cache : State} {now : ℕ} {authorization : Option HeaderValue}
    {upgrade : Upgrade} :
    env.wsHandler cache now authorization = .ok upgrade ↔
      Authorized env cache now authorization upgrade := by
  unfold ServerEnv.wsHandler
  constructor
  · intro h
    split at h
    · cases h
    · rename_i header hheader
      split at h
      · cases h
      · rename_i auth hauth
        dsimp only at h
        split at h
        · cases h
        · rename_i hunits
          obtain rfl := Except.ok.inj h
          refine ⟨⟨header, hheader, validateBearer_eq_ok_iff.mp hauth⟩, rfl, ?_⟩
          simpa using hunits
  · rintro ⟨⟨header, hheader, hnames⟩, hunits, hsome⟩
    rw [hheader]
    dsimp only
    rw [validateBearer_eq_ok_iff.mpr hnames]
    dsimp only
    rw [← hunits, if_neg (by simpa using hsome)]

end Request

/-! ## Every run -/

section Runs

variable {Payload Json Time HeaderValue : Type} {env : ServerEnv Payload Json HeaderValue}
  {l : ServerLedger HeaderValue} {s s' : ServerState Json Time}

/-- The answers are those of `ws_handler`, and the clients are those that were accepted. -/
structure LetIn (env : ServerEnv Payload Json HeaderValue) (l : ServerLedger HeaderValue)
    (s : ServerState Json Time) : Prop where
  responses : ∀ r ∈ l.requests, r.response = env.wsHandler r.cache r.now r.authorization
  clients : l.accepted.Perm (s.ws.opened.map upgradeOf ++ l.lost ++ s.ws.upgrades)
  lost : ¬ RefusesChannels env → l.lost = []
  opened : RefusesChannels env → s.ws.opened = []

/-- At the start nobody was let in. -/
theorem letIn_init : LetIn env .init (ServerState.init : ServerState Json Time) where
  responses := by intro r hr; cases hr
  clients := List.Perm.nil
  lost _ := rfl
  opened _ := rfl

/-- One more request is on record with its answer. -/
theorem LetIn.responses_concat (h : LetIn env l s) (now : ℕ)
    (authorization : Option HeaderValue) (cache : State) :
    ∀ r ∈ l.requests ++ [⟨now, authorization, cache, env.wsHandler cache now authorization⟩],
      r.response = env.wsHandler r.cache r.now r.authorization := by
  intro r hr
  obtain hr | hr := List.mem_append.mp hr
  · exact h.responses r hr
  · rw [List.mem_singleton.mp hr]

/-- A request that is accepted waits for its socket. -/
theorem letIn_request (h : LetIn env l s) {now : ℕ} {authorization : Option HeaderValue}
    (hstep : serverStep env s (.request now authorization : ServerAction Payload Json Time
      HeaderValue) = some s') :
    LetIn env (noteServer env l s (.request now authorization :
      ServerAction Payload Json Time HeaderValue)) s' := by
  obtain ⟨hrefused, rfl⟩ | ⟨upgrade, haccepted, rfl⟩ := request_cases hstep
  · refine ⟨h.responses_concat now authorization _, ?_, h.lost, h.opened⟩
    show (List.filterMap RequestRecord.accepted (l.requests ++ [_])).Perm _
    rw [List.filterMap_append, List.filterMap_cons, List.filterMap_nil, RequestRecord.accepted,
      hrefused, List.append_nil]
    exact h.clients
  · refine ⟨h.responses_concat now authorization _, ?_, h.lost, h.opened⟩
    show (List.filterMap RequestRecord.accepted (l.requests ++ [_])).Perm
      (s.ws.opened.map upgradeOf ++ l.lost ++ (s.ws.upgrades ++ [upgrade]))
    rw [List.filterMap_append, List.filterMap_cons, List.filterMap_nil, RequestRecord.accepted,
      haccepted, ← List.append_assoc]
    exact h.clients.append_right [upgrade]

/-- A handshake is used up by the connection that is opened for it, or by a panic. -/
theorem letIn_openSocket (h : LetIn env l s) {i : ℕ} {id : ConnectionId}
    (hstep : serverStep env s (.openSocket i id : ServerAction Payload Json Time
      HeaderValue) = some s') :
    LetIn env (noteServer env l s (.openSocket i id : ServerAction Payload Json Time
      HeaderValue)) s' := by
  obtain ⟨hbad, upgrade, hupgrade, rfl⟩ | ⟨hgood, ws, hopen, rfl⟩ := serverOpen_cases hstep
  · obtain ⟨hi, rfl⟩ := List.getElem?_eq_some_iff.mp hupgrade
    rw [noteServer, if_pos hbad, hupgrade]
    refine ⟨h.responses, h.clients.trans ?_, fun hgood => absurd hbad hgood, h.opened⟩
    show (s.ws.opened.map upgradeOf ++ l.lost ++ s.ws.upgrades).Perm
      (s.ws.opened.map upgradeOf ++ (l.lost ++ [s.ws.upgrades[i]]) ++ s.ws.upgrades.eraseIdx i)
    rw [← List.append_assoc, List.append_assoc _ [_]]
    exact (List.getElem_cons_eraseIdx_perm hi).symm.append_left _
  · rw [noteServer, if_neg hgood]
    obtain ⟨up, context, hup, -, rfl, rfl⟩ := handleSocket_cases hopen
    refine ⟨h.responses, h.clients.trans ?_, h.lost, fun hbad => absurd hbad hgood⟩
    obtain ⟨hi, rfl⟩ := List.getElem?_eq_some_iff.mp hup
    show (s.ws.opened.map upgradeOf ++ l.lost ++ s.ws.upgrades).Perm
      ((s.ws.opened ++ [_]).map upgradeOf ++ l.lost ++ s.ws.upgrades.eraseIdx i)
    rw [h.lost hgood, List.append_nil, List.append_nil, List.map_append, List.append_assoc]
    exact (List.getElem_cons_eraseIdx_perm hi).symm.append_left _

/-- Every step lets in those whose request was accepted, once. -/
theorem letIn_serverStep (h : LetIn env l s)
    {a : ServerAction Payload Json Time HeaderValue} (hstep : serverStep env s a = some s') :
    LetIn env (noteServer env l s a) s' := by
  obtain ⟨now, authorization, rfl⟩ | ⟨i, id, rfl⟩ | ⟨hupgrades, hopened⟩ :=
    clients_of_serverStep hstep
  · exact letIn_request h hstep
  · exact letIn_openSocket h hstep
  · have hkept : LetIn env l s' := by
      refine ⟨h.responses, ?_, h.lost, ?_⟩
      · rw [hopened, hupgrades]
        exact h.clients
      · rw [hopened]
        exact h.opened
    cases a with
    | request now authorization => exact letIn_request h hstep
    | openSocket i id => exact letIn_openSocket h hstep
    | start handle now | turn handle now event | removeConnection handle | finish handle
    | other action => exact hkept

/-- **The connections are those of the accepted requests.**  In every run each request is
accepted exactly for a token of a user who can see a unit at that moment, and the accepted
handshakes are, one for one, the connections that were opened, the handshakes that still wait
for their socket, and those whose task panicked as its channel could not be made.  With a
capacity that can be made none is lost so, and otherwise none gets a connection.
SRC: websocket/auth.rs:40-72, websocket/handler.rs:52-110 -/
theorem authenticated_serverRun (env : ServerEnv Payload Json HeaderValue)
    (actions : List (ServerAction Payload Json Time HeaderValue)) (s : ServerState Json Time)
    (hrun : serverRun env actions = some s) :
    ∃ l, serverLedgerRun env actions = some (l, s) ∧
      (∀ r ∈ l.requests, ∀ upgrade, r.accepted = some upgrade ↔
        Authorized env r.cache r.now r.authorization upgrade) ∧
      l.accepted.Perm (s.ws.opened.map upgradeOf ++ l.lost ++ s.ws.upgrades) ∧
      (¬ RefusesChannels env → l.lost = []) ∧ (RefusesChannels env → s.ws.opened = []) := by
  obtain ⟨l, hledger⟩ := Runs.exists_exec_observed hrun (noteServer env) .init
  have h : LetIn env l s := by
    refine Runs.invariant_of_observed letIn_init ?_ hledger
    intro l s a s' h hstep
    exact letIn_serverStep h hstep
  refine ⟨l, hledger, ?_, h.clients, h.lost, h.opened⟩
  intro r hr upgrade
  rw [← wsHandler_eq_ok_iff, ← h.responses r hr, RequestRecord.accepted]
  cases r.response with
  | error code => simp [Except.toOption]
  | ok up => simp [Except.toOption]

end Runs

/-! ## A client of the owner -/

/-- The users and units of the sample, whose token has no `user_id` but a `sub`. -/
def sampleServerEnv : ServerEnv Event Event String where
  decoder := typedDecoder
  parseUuid s :=
    [("00000000-0000-0000-0000-000000000001", 1), ("00000000-0000-0000-0000-000000000005", 5),
      ("00000000-0000-0000-0000-00000000000a", 10)].lookup s
  decode _ token :=
    if token = "owner.signed.token" then
      .ok ⟨some "00000000-0000-0000-0000-000000000005", none,
        some "00000000-0000-0000-0000-00000000000a", 2000000000⟩
    else .error "InvalidToken"
  toStr := some
  timer := linuxTimer
  state := ⟨8, fromSecs 30, fromSecs 60⟩

/-- A client without a header, then the owner. -/
def acceptedRun : List (ServerAction Event Event ℕ String) :=
  (ownerOps.map fun e => .other (.controlEvent e)) ++
    [.request 0 none, .request 1 (some "bearer owner.signed.token")]

/-- The owner is let in for unit 1. -/
theorem wsHandler_owner :
    sampleServerEnv.wsHandler (State.run (ownerOps.map Event.op)) 1
      (some "bearer owner.signed.token") = .ok ⟨10, 5, [1]⟩ := by
  refine wsHandler_eq_ok_iff.mpr ⟨⟨_, rfl, "owner.signed.token", _, Or.inr rfl, rfl, rfl, rfl⟩,
    unitsFor_ownerOps.symm, List.cons_ne_nil _ _⟩

/-- The run of the owner ends with his handshake waiting for its socket. -/
theorem serverRun_acceptedRun :
    serverRun sampleServerEnv acceptedRun = some ⟨{ (WsState.init : WsState Event ℕ) with
      cache := State.run (ownerOps.map Event.op), upgrades := [⟨10, 5, [1]⟩] }, ∅⟩ := by
  have hsplit : acceptedRun = ((ownerOps.map fun e => .other (.controlEvent e)) ++
      [.request 0 none]) ++ [.request 1 (some "bearer owner.signed.token")] := rfl
  rw [hsplit]
  refine Runs.exec_concat_eq_some.mpr ⟨⟨{ (WsState.init : WsState Event ℕ) with
    cache := State.run (ownerOps.map Event.op) }, ∅⟩, rfl, ?_⟩
  simp only [serverStep, wsHandler_owner]
  rfl

/-- The owner connects, on the one handshake that was accepted. -/
theorem authenticated_serverRun_owner :
    ∃ (s : ServerState Event ℕ) (l : ServerLedger String),
      serverRun sampleServerEnv (acceptedRun ++ [.openSocket 0 77]) = some s ∧
        s.ws.opened = [⟨77, 5, 10, [1], 0⟩] ∧ l.accepted = [⟨10, 5, [1]⟩] ∧ l.lost = [] := by
  obtain ⟨s, hs, hopened, hupgrades⟩ : ∃ s : ServerState Event ℕ,
      serverRun sampleServerEnv (acceptedRun ++ [.openSocket 0 77]) = some s ∧
        s.ws.opened = [⟨77, 5, 10, [1], 0⟩] ∧ s.ws.upgrades = [] :=
    ⟨_, Runs.exec_concat_eq_some.mpr ⟨_, serverRun_acceptedRun, rfl⟩, rfl, rfl⟩
  obtain ⟨l, -, -, hclients, hlost, -⟩ := authenticated_serverRun sampleServerEnv _ s hs
  have hnone : l.lost = [] := hlost (by decide)
  rw [hopened, hupgrades, hnone] at hclients
  exact ⟨s, l, hs, hopened, List.perm_singleton.mp hclients, hnone⟩

end AlertDistributor.Analysis
