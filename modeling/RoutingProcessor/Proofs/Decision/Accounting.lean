import RoutingProcessor.Proofs.Decision.Fetch
import RoutingProcessor.Proofs.Decision.Specification

namespace RoutingProcessor.Decision

open Net Http

-- One call of a client, at a server that counts the requests it has had. The n-th of them
-- meets the n-th exchange.
def Client.ask (client : Client) (peer : Nat → Exchange) :
    StateT Nat Option (Except Error String) := fun served => do
  let answer ← client.fetch (peer served)
  return (answer, served + client.requests (peer served))

namespace Engine

-- The requests of a list are served one after the other by one engine.
def serveAll (engine : Engine) (peer : Nat → Exchange) (calls : List HeaderSet) :
    StateT Nat Option (List (Except Error Outcome)) :=
  calls.mapM (engine.decideBy (engine.client.ask peer))

-- How many requests name no service: their first preferred header is absent or empty.
def unnamed (engine : Engine) (calls : List HeaderSet) : Nat :=
  calls.countP fun headers => (headers.get? engine.preferredHeader).getD "" == ""

variable {engine : Engine} {peer : Nat → Exchange} {headers : HeaderSet} {exchange : Exchange}
  {calls : List HeaderSet} {served : Nat}

theorem asks_eq :
    engine.asks headers = ((headers.get? engine.preferredHeader).getD "" == "") := by
  unfold asks preferred?
  cases headers.get? engine.preferredHeader with
  | none => rfl
  | some value => by_cases h : value = "" <;> simp [Option.filter, h]

@[simp] theorem unnamed_nil : engine.unnamed [] = 0 := rfl

theorem unnamed_cons :
    engine.unnamed (headers :: calls) = engine.unnamed calls + if engine.asks headers then 1 else 0 := by
  simp only [unnamed, List.countP_cons, asks_eq]

theorem unnamed_take_succ {i : Nat} (h : calls[i]? = some headers) :
    engine.unnamed (calls.take (i + 1)) =
      engine.unnamed (calls.take i) + if engine.asks headers then 1 else 0 := by
  simp only [unnamed, List.take_add_one, h, List.countP_append, asks_eq, Option.toList_some,
    List.countP_singleton]

theorem length_of_decides {used : List (Except Error String)} {result : Except Error Outcome}
    (decides : Decides engine headers used result) :
    used.length = if engine.asks headers then 1 else 0 := by
  cases h : engine.preferred? headers with
  | some service =>
    obtain ⟨rfl, _⟩ := (decides_iff_of_preferred h).1 decides
    simp [asks, h]
  | none =>
    obtain ⟨answer, rfl, _⟩ := (decides_iff_of_unnamed h).1 decides
    simp [asks, h]

-- A decision that calls its client is a decision that knows the exchange beforehand, and it
-- leaves as many requests behind.
theorem decideBy_ask :
    engine.decideBy (engine.client.ask peer) headers served =
      (engine.decide headers (peer served)).map
        (·, served + engine.requests headers (peer served)) := by
  cases h : engine.preferred? headers with
  | some service =>
    simp only [decideBy_of_preferred h, decide, requests, asks, h]
    rfl
  | none =>
    have hask : engine.client.ask peer served =
        (engine.client.fetch (peer served)).map
          (·, served + engine.client.requests (peer served)) := by
      unfold Client.ask
      cases engine.client.fetch (peer served) <;> rfl
    simp only [decideBy_of_unnamed h, decide, requests, asks, h, bind, StateT.bind, hask]
    cases engine.client.fetch (peer served) <;> rfl

theorem isSome_decide (ends : exchange.ends) : (engine.decide headers exchange).isSome := by
  unfold decide
  split
  · rfl
  · rw [Option.isSome_map]
    exact Client.isSome_fetch (.inl ends)

-- A server that takes each request and gets done with it.
structure Serves (client : Client) (peer : Nat → Exchange) : Prop where
  sends : client.sends
  arrives : ∀ n, (peer n).arrives
  ends : ∀ n, (peer n).ends

section Serves

variable (serves : Serves engine.client peer)

include serves

theorem Serves.requests_eq (n : Nat) :
    engine.requests headers (peer n) = if engine.asks headers then 1 else 0 := by
  simp [requests, Client.requests, serves.sends, serves.arrives]

-- The requests of a list are answered in order, and of the exchanges each takes the next one
-- if it asks for a decision and none if it does not.
theorem Serves.run (calls : List HeaderSet) (served : Nat) :
    ∃ results : List (Except Error Outcome),
      engine.decideAll peer calls served = (results.map some, served + engine.unnamed calls) ∧
      engine.serveAll peer calls served = some (results, served + engine.unnamed calls) ∧
      results.length = calls.length ∧
      ∀ i headers, calls[i]? = some headers → ∃ result, results[i]? = some result ∧
        engine.decide headers (peer (served + engine.unnamed (calls.take i))) = some result := by
  induction calls generalizing served with
  | nil => exact ⟨[], rfl, rfl, rfl, by simp⟩
  | cons headers calls ih =>
    obtain ⟨result, hresult⟩ : ∃ result, engine.decide headers (peer served) = some result :=
      Option.isSome_iff_exists.1 (isSome_decide (serves.ends served))
    have hrequests : engine.requests headers (peer served) = if engine.asks headers then 1 else 0 :=
      serves.requests_eq served
    obtain ⟨results, hall, hserve, hlength, hresults⟩ :=
      ih (served + engine.requests headers (peer served))
    have htotal : served + engine.requests headers (peer served) + engine.unnamed calls =
        served + engine.unnamed (headers :: calls) := by
      rw [hrequests, unnamed_cons]
      omega
    rw [htotal] at hall hserve
    refine ⟨result :: results, ?_, ?_, by simp [hlength], ?_⟩
    · simp only [decideAll, hresult, hall, List.map_cons]
    · have hstep : engine.decideBy (engine.client.ask peer) headers served =
          some (result, served + engine.requests headers (peer served)) := by
        rw [decideBy_ask, hresult, Option.map_some]
      unfold serveAll at hserve ⊢
      rw [List.mapM_cons]
      simp only [bind, StateT.bind, hstep, hserve, Option.bind_some]
      rfl
    · intro i other hi
      cases i with
      | zero =>
        cases hi
        exact ⟨result, rfl, hresult⟩
      | succ i =>
        obtain ⟨found, hfound, hdecide⟩ := hresults i other hi
        refine ⟨found, hfound, ?_⟩
        rw [List.take_succ_cons, unnamed_cons, ← hdecide, hrequests]
        congr 2
        omega

end Serves

theorem scripted_mem {replies : List Exchange} (given : replies ≠ []) (n : Nat) :
    scripted replies n ∈ replies := by
  unfold scripted
  cases found : replies[n]? with
  | some reply => exact List.mem_of_getElem? found
  | none =>
    rw [Option.getD_none, List.getLastD_eq_getLast?, List.getLast?_eq_some_getLast given]
    exact List.getLast_mem given

theorem serves_scripted {replies : List Exchange} {uri : Uri} (leads : engine.client.Leads uri)
    (plain : uri.scheme = some "http") (given : replies ≠ [])
    (answered : ∀ reply ∈ replies, reply.arrives ∧ reply.ends) :
    Serves engine.client (scripted replies) where
  sends := by
    obtain ⟨endpoint, htarget⟩ := Client.target_of_leads leads
    simp [Client.sends, htarget, plain]
  arrives n := (answered _ (scripted_mem given n)).1
  ends n := (answered _ (scripted_mem given n)).2

-- Of the replies of a server, each request that names no service takes the next one, whatever
-- has become of the ones before, and no other request takes any. So a result depends on the
-- earlier requests by their count only.
theorem unnamed_requests_take_one_reply (engine : Engine) (uri : Uri) (replies : List Exchange)
    (calls : List HeaderSet) (leads : engine.client.Leads uri)
    (plain : uri.scheme = some "http") (given : replies ≠ [])
    (answered : ∀ reply ∈ replies, reply.arrives ∧ reply.ends) :
    ∃ results : List (Except Error Outcome),
      engine.decideAll (scripted replies) calls 0 = (results.map some, engine.unnamed calls) ∧
      engine.serveAll (scripted replies) calls 0 = some (results, engine.unnamed calls) ∧
      results.length = calls.length ∧
      ∀ (i : Nat) (headers : HeaderSet) (result : Except Error Outcome),
        calls[i]? = some headers → results[i]? = some result →
          let reply := scripted replies (engine.unnamed (calls.take i))
          engine.decide headers reply = some result ∧
            ∃ used, Decides engine headers used result ∧
              (∀ answer ∈ used, engine.client.fetch reply = some answer) ∧
              engine.unnamed (calls.take (i + 1)) =
                engine.unnamed (calls.take i) + used.length := by
  have serves := serves_scripted leads plain given answered
  obtain ⟨results, hall, hserve, hlength, hresults⟩ := serves.run calls 0
  simp only [Nat.zero_add] at hall hserve hresults
  refine ⟨results, hall, hserve, hlength, ?_⟩
  intro i headers result hcall hresult reply
  obtain ⟨found, hfound, hdecide⟩ := hresults i headers hcall
  obtain rfl : found = result := Option.some.inj (hfound.symm.trans hresult)
  obtain ⟨used, decides, fetched⟩ := decide_eq_some_iff.1 hdecide
  exact ⟨hdecide, used, decides, fetched, by rw [unnamed_take_succ hcall, length_of_decides decides]⟩

-- A server that breaks off once and then decides, and four requests. The second one prefers a
-- service, and the third one leaves it empty before it names one.
def asking : Engine := ⟨"preferred-svc", "x-routing-decision", ⟨some "http://a/", none⟩⟩

def breakingOff : List Exchange :=
  [.noResponse, .response .ok .untilClose (Text.octets "\x7b\"decision\":\"b\"\x7d")]

def fourRequests : List HeaderSet :=
  [⟨[]⟩, ⟨[⟨"Preferred-Svc", "a"⟩]⟩, ⟨[⟨"preferred-svc", ""⟩, ⟨"preferred-svc", "a"⟩]⟩, ⟨[]⟩]

def outcomes : List (Except Error Outcome) := [
  .error .transport,
  .ok ⟨true, ⟨[⟨"x-routing-decision", "a", .appendIfExistsOrAdd⟩], ["preferred-svc"]⟩⟩,
  .ok ⟨true, ⟨[⟨"x-routing-decision", "b", .appendIfExistsOrAdd⟩], ["preferred-svc"]⟩⟩,
  .ok ⟨true, ⟨[⟨"x-routing-decision", "b", .appendIfExistsOrAdd⟩], []⟩⟩]

theorem three_of_four_requests_ask :
    asking.client.Leads ⟨some "http", some "a", "/", none⟩ ∧ breakingOff ≠ [] ∧
      (∀ reply ∈ breakingOff, reply.arrives ∧ reply.ends) ∧
      asking.decideAll (scripted breakingOff) fourRequests 0 = (outcomes.map some, 3) ∧
      asking.serveAll (scripted breakingOff) fourRequests 0 = some (outcomes, 3) := by
  have leads : asking.client.Leads ⟨some "http", some "a", "/", none⟩ := ⟨"http://a/", rfl, rfl⟩
  have given : breakingOff ≠ [] := by simp [breakingOff]
  have answered : ∀ reply ∈ breakingOff, reply.arrives ∧ reply.ends := by decide
  obtain ⟨results, hall, hserve, _⟩ :=
    unnamed_requests_take_one_reply asking _ breakingOff fourRequests leads rfl given answered
  have hfirst : (asking.decideAll (scripted breakingOff) fourRequests 0).1 = outcomes.map some := by
    with_unfolding_all rfl
  rw [hall] at hfirst
  obtain rfl : results = outcomes := (List.map_inj_right fun _ _ => Option.some.inj).1 hfirst
  exact ⟨leads, given, answered, hall, hserve⟩

end Engine

end RoutingProcessor.Decision
