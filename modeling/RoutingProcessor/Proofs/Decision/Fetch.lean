import RoutingProcessor.Decision.Client

namespace RoutingProcessor

open Text Net Http

namespace Http.Exchange

-- The status of the final head, once there is one.
def head? : Exchange → Option Status
  | unfinished status | response status _ _ => some status
  | _ => none

-- The body from its beginning to its end.
def body? : Exchange → Option Octets
  | response _ framing received => framing.body? received
  | _ => none

end Http.Exchange

namespace Decision

-- The statuses under which a body is read.
def InRange (status : Status) : Prop := 200 ≤ status.code ∧ status.code ≤ 498

theorem isDecodable_iff {status : Status} : isDecodable status = true ↔ InRange status := by
  simp only [isDecodable, InRange, Bool.and_eq_true, decide_eq_true_eq]
  omega

-- What an exchange comes to. The stages stand in their order: a head, a status, a body, a
-- decision, and each is reached through the ones before it only.
inductive Concluded (exchange : Exchange) : Except Error String → Prop where
  | transport (ends : exchange.ends) (headless : exchange.head? = none) :
      Concluded exchange (.error .transport)
  | status {status : Status} (head : exchange.head? = some status) (out : ¬InRange status) :
      Concluded exchange (.error (.unexpectedStatus status))
  | body {status : Status} (ends : exchange.ends) (head : exchange.head? = some status)
      (inRange : InRange status) (cut : exchange.body? = none) : Concluded exchange (.error .body)
  | decode {status : Status} {body : Octets} {cause : Payload.Error}
      (head : exchange.head? = some status) (inRange : InRange status)
      (whole : exchange.body? = some body) (bad : Payload.decode body = .error cause) :
      Concluded exchange (.error (.decode cause))
  | decision {status : Status} {body : Octets} {decision : String}
      (head : exchange.head? = some status) (inRange : InRange status)
      (whole : exchange.body? = some body) (good : Payload.decode body = .ok decision) :
      Concluded exchange (.ok decision)

-- Nothing has come of the exchange, and there is more to wait for.
def Pending (exchange : Exchange) : Prop :=
  exchange.ends = false ∧ ∀ status, exchange.head? = some status → InRange status

section Exchange

variable {exchange : Exchange} {status : Status} {framing : Framing} {received : Octets}
  {result : Except Error String}

theorem concluded_ofResponse :
    Concluded (.response status framing received) (Client.ofResponse status framing received) := by
  unfold Client.ofResponse
  split
  · next decodable =>
    have inRange := isDecodable_iff.1 decodable
    cases whole : framing.body? received with
    | none => exact .body rfl rfl inRange whole
    | some body =>
      cases read : Payload.decode body with
      | error cause =>
        simp only [read]
        exact .decode rfl inRange whole read
      | ok decision =>
        simp only [read]
        exact .decision rfl inRange whole read
  · next undecodable => exact .status rfl (fun h => undecodable (isDecodable_iff.2 h))

theorem concluded_of_ofExchange (h : Client.ofExchange exchange = some result) :
    Concluded exchange result := by
  cases exchange with
  | unreachable | noResponse =>
    cases h
    exact .transport rfl rfl
  | stalled => cases h
  | unfinished status =>
    simp only [Client.ofExchange] at h
    split at h
    · cases h
    · next undecodable =>
      cases h
      exact .status rfl (fun h => undecodable (isDecodable_iff.2 h))
  | response status framing received =>
    cases h
    exact concluded_ofResponse

theorem pending_of_ofExchange (h : Client.ofExchange exchange = none) : Pending exchange := by
  cases exchange with
  | unreachable | noResponse | response => cases h
  | stalled => exact ⟨rfl, by simp [Exchange.head?]⟩
  | unfinished status =>
    simp only [Client.ofExchange] at h
    split at h
    · next decodable =>
      refine ⟨rfl, fun other head => ?_⟩
      cases head
      exact isDecodable_iff.1 decodable
    · cases h

-- An exchange comes to one thing at most.
theorem Concluded.unique {other : Except Error String} (h : Concluded exchange result)
    (h' : Concluded exchange other) : result = other := by
  cases h <;> cases h' <;> simp_all

theorem Concluded.not_pending (h : Concluded exchange result) : ¬Pending exchange := by
  rintro ⟨running, inRange⟩
  cases h with
  | transport ends => simp [running] at ends
  | status head out => exact out (inRange _ head)
  | body ends => simp [running] at ends
  | decode _ _ whole | decision _ _ whole =>
    cases exchange with
    | response => simp [Exchange.ends] at running
    | unreachable | noResponse | stalled | unfinished => simp [Exchange.body?] at whole

theorem ofExchange_eq_some_iff :
    Client.ofExchange exchange = some result ↔ Concluded exchange result := by
  constructor
  · exact concluded_of_ofExchange
  · intro h
    cases found : Client.ofExchange exchange with
    | none => exact absurd (pending_of_ofExchange found) h.not_pending
    | some other => rw [(concluded_of_ofExchange found).unique h]

theorem ofExchange_eq_none_iff : Client.ofExchange exchange = none ↔ Pending exchange := by
  constructor
  · exact pending_of_ofExchange
  · intro pending
    cases found : Client.ofExchange exchange with
    | none => rfl
    | some other => exact absurd pending (concluded_of_ofExchange found).not_pending

end Exchange

namespace Client

-- The endpoint is a URI, so there is somewhere to send a request to.
def Leads (client : Client) (uri : Uri) : Prop :=
  ∃ endpoint, client.endpoint = some endpoint ∧ Uri.parse endpoint = .ok uri

-- The endpoint is unset, empty or no URI.
def Unusable (client : Client) : Prop :=
  client.endpoint = none ∨ client.endpoint = some "" ∨
    ∃ endpoint cause, client.endpoint = some endpoint ∧ Uri.parse endpoint = .error cause

-- What a client meets with at the place its endpoint leads to. It connects to nothing but
-- plain web addresses.
def met (uri : Uri) (exchange : Exchange) : Exchange :=
  if uri.scheme = some "http" then exchange else .unreachable

-- All that can come of a fetch, with what it comes from. Nothing comes of it as long as the
-- server keeps the request and no timeout ends it.
inductive Fetched (client : Client) (exchange : Exchange) : Option (Except Error String) → Prop where
  | unset (h : client.endpoint = none ∨ client.endpoint = some "") :
      Fetched client exchange (some (.error .notConfigured))
  | invalid {endpoint : String} {cause : Uri.Error} (given : client.endpoint = some endpoint)
      (nonempty : endpoint ≠ "") (bad : Uri.parse endpoint = .error cause) :
      Fetched client exchange (some (.error (.invalidEndpoint endpoint cause)))
  | concluded {uri : Uri} {result : Except Error String} (leads : client.Leads uri)
      (h : Concluded (met uri exchange) result) : Fetched client exchange (some result)
  | timedOut {uri : Uri} {after : Duration} (leads : client.Leads uri)
      (pending : Pending (met uri exchange)) (timeout : client.timeout = some after) :
      Fetched client exchange (some (.error (.timeout after)))
  | waiting {uri : Uri} (leads : client.Leads uri) (pending : Pending (met uri exchange))
      (timeout : client.timeout = none) : Fetched client exchange none

variable {client : Client} {exchange : Exchange} {uri : Uri} {endpoint : String}

theorem parse_empty : Uri.parse "" = .error .empty := rfl

theorem target_of_leads (leads : client.Leads uri) :
    ∃ endpoint, client.target = .ok (endpoint, uri) := by
  obtain ⟨endpoint, given, good⟩ := leads
  refine ⟨endpoint, ?_⟩
  unfold target
  split
  · simp_all
  · simp_all [parse_empty]
  · simp_all

theorem target_of_unset (h : client.endpoint = none ∨ client.endpoint = some "") :
    client.target = .error .notConfigured := by
  rcases h with h | h <;> simp [target, h]

theorem target_of_invalid {cause : Uri.Error} (given : client.endpoint = some endpoint)
    (nonempty : endpoint ≠ "") (bad : Uri.parse endpoint = .error cause) :
    client.target = .error (.invalidEndpoint endpoint cause) := by
  unfold target
  split <;> simp_all

-- What the endpoint is decides where it leads.
theorem target_cases (client : Client) :
    (client.endpoint = none ∨ client.endpoint = some "") ∨
      (∃ endpoint cause, client.endpoint = some endpoint ∧ endpoint ≠ "" ∧
        Uri.parse endpoint = .error cause) ∨
      ∃ uri, client.Leads uri := by
  cases given : client.endpoint with
  | none => exact .inl (.inl rfl)
  | some endpoint =>
    by_cases nonempty : endpoint = ""
    · exact .inl (.inr (by rw [nonempty]))
    · cases read : Uri.parse endpoint with
      | error cause => exact .inr (.inl ⟨endpoint, cause, rfl, nonempty, read⟩)
      | ok uri => exact .inr (.inr ⟨uri, endpoint, given, read⟩)

theorem fetch_of_target_error {error : Error} (h : client.target = .error error) :
    client.fetch exchange = some (.error error) := by
  simp only [fetch, h]

-- Behind a usable endpoint a fetch is an exchange, cut off by the timeout.
theorem fetch_of_leads (leads : client.Leads uri) :
    client.fetch exchange =
      (ofExchange (met uri exchange)).or
        (client.timeout.map fun after => .error (.timeout after)) := by
  obtain ⟨endpoint, htarget⟩ := target_of_leads leads
  simp only [fetch, sends, htarget, met, decide_eq_true_eq]
  split <;> rfl

theorem requests_of_target_error {error : Error} (h : client.target = .error error) :
    client.requests exchange = 0 := by
  simp [requests, sends, h]

theorem requests_le_one : client.requests exchange ≤ 1 := by
  unfold requests
  split <;> decide

theorem fetched_fetch (client : Client) (exchange : Exchange) :
    Fetched client exchange (client.fetch exchange) := by
  rcases target_cases client with unset | ⟨endpoint, cause, given, nonempty, bad⟩ | ⟨uri, leads⟩
  · rw [fetch_of_target_error (target_of_unset unset)]
    exact .unset unset
  · rw [fetch_of_target_error (target_of_invalid given nonempty bad)]
    exact .invalid given nonempty bad
  · rw [fetch_of_leads leads]
    cases found : ofExchange (met uri exchange) with
    | some result => exact .concluded leads (concluded_of_ofExchange found)
    | none =>
      have pending := pending_of_ofExchange found
      cases timeout : client.timeout with
      | some after => exact .timedOut leads pending timeout
      | none => exact .waiting leads pending timeout

theorem Fetched.eq {result : Option (Except Error String)} (h : Fetched client exchange result) :
    client.fetch exchange = result := by
  cases h with
  | unset h => exact fetch_of_target_error (target_of_unset h)
  | invalid given nonempty bad => exact fetch_of_target_error (target_of_invalid given nonempty bad)
  | concluded leads h => rw [fetch_of_leads leads, ofExchange_eq_some_iff.2 h, Option.some_or]
  | timedOut leads pending timeout =>
    rw [fetch_of_leads leads, ofExchange_eq_none_iff.2 pending, timeout]
    rfl
  | waiting leads pending timeout =>
    rw [fetch_of_leads leads, ofExchange_eq_none_iff.2 pending, timeout]
    rfl

theorem Leads.not_unusable (leads : client.Leads uri) : ¬client.Unusable := by
  obtain ⟨endpoint, given, good⟩ := leads
  rintro (h | h | ⟨other, cause, h, bad⟩)
  · simp [given] at h
  · simp only [given, Option.some.injEq] at h
    simp [h, parse_empty] at good
  · simp only [given, Option.some.injEq] at h
    simp [← h, good] at bad

-- Without a usable endpoint the server is never heard of.
theorem Unusable.target (h : client.Unusable) : ∃ error, client.target = .error error := by
  rcases target_cases client with unset | ⟨endpoint, cause, given, nonempty, bad⟩ | ⟨uri, leads⟩
  · exact ⟨_, target_of_unset unset⟩
  · exact ⟨_, target_of_invalid given nonempty bad⟩
  · exact absurd h leads.not_unusable

-- Only a server that neither answers nor breaks off holds a fetch up, and only without a
-- timeout.
theorem isSome_fetch (h : exchange.ends ∨ client.timeout.isSome) :
    (client.fetch exchange).isSome := by
  have fetched := fetched_fetch client exchange
  cases found : client.fetch exchange with
  | some result => rfl
  | none =>
    rw [found] at fetched
    cases fetched with
    | @waiting uri leads pending timeout =>
      rcases h with ends | h
      · have running := pending.1
        unfold met at running
        split at running
        · simp [running] at ends
        · cases running
      · simp [timeout] at h

-- Why there is no decision tells whether there was anybody to ask.
theorem Fetched.kind_eq_configuration_iff {error : Error}
    (h : Fetched client exchange (some (.error error))) :
    error.kind = .configuration ↔ client.Unusable := by
  cases h with
  | unset h =>
    refine iff_of_true rfl ?_
    rcases h with h | h
    · exact .inl h
    · exact .inr (.inl h)
  | invalid given _ bad => exact iff_of_true rfl (.inr (.inr ⟨_, _, given, bad⟩))
  | concluded leads h => cases h <;> exact iff_of_false (by simp [Error.kind]) leads.not_unusable
  | timedOut leads => exact iff_of_false (by simp [Error.kind]) leads.not_unusable

theorem Fetched.ne_request {error : Error} (h : Fetched client exchange (some (.error error))) :
    error ≠ .request := by
  rintro rfl
  cases h with
  | concluded _ h => cases h

-- A fetch fails at the first stage that fails, and for its reason. An endpoint that leads
-- nowhere is found out before anything is sent, whatever the server does.
theorem fetch_classified (client : Client) (exchange : Exchange) :
    (∀ result, client.fetch exchange = result ↔ Fetched client exchange result) ∧
      client.requests exchange ≤ 1 ∧
      (client.Unusable → client.requests exchange = 0 ∧
        ∀ other, client.fetch other = client.fetch exchange) ∧
      ∀ error, client.fetch exchange = some (.error error) →
        error ≠ .request ∧ (error.kind = .configuration ↔ client.Unusable) := by
  have classified : ∀ result, client.fetch exchange = result ↔ Fetched client exchange result :=
    fun result => ⟨fun h => h ▸ fetched_fetch client exchange, Fetched.eq⟩
  refine ⟨classified, requests_le_one, ?_, ?_⟩
  · intro unusable
    obtain ⟨error, htarget⟩ := unusable.target
    refine ⟨requests_of_target_error htarget, fun other => ?_⟩
    rw [fetch_of_target_error htarget, fetch_of_target_error htarget]
  · intro error failed
    have h := (classified _).1 failed
    exact ⟨h.ne_request, h.kind_eq_configuration_iff⟩

end Client

end Decision

end RoutingProcessor
