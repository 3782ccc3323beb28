import FareGateway.Proofs.Growth
import FareGateway.Proofs.Hearing
import FareGateway.Proofs.Routing

/-!
# Calls that fail

A search or a call on an offer that ends with an error, at whichever stage, gives
no names and writes no routes.  Looking for the route may have dropped it from the
cache, and time has passed; but whoever looks up a name or a route afterwards finds
what would have been found without the call.  An order never does more than that.
-/

namespace FareGateway

namespace Gateway

/-- Names are the same, and no route has been written or removed. -/
structure LeftAlone (before after : Gateway) : Prop where
  table_eq : after.table = before.table
  writes : Writes before [] after

theorem LeftAlone.routeAt_eq {before after : Gateway} (h : LeftAlone before after)
    {now : Nat} (hnow : after.now ≤ now) (key : String) :
    after.routeAt now key = before.routeAt now key :=
  h.writes.routeAt_eq hnow key

theorem getRoute_wait_fst (gateway : Gateway) (ms : Nat) (key : String) :
    ((gateway.wait ms).getRoute key).1 = gateway.routeAt (gateway.now + ms) key := by
  rw [getRoute_fst]
  exact (gateway.idles_wait ms).routeAt_eq (Nat.le_refl _) key

/-- A look-up after a call that leaves everything alone finds what one finds who has
waited meanwhile. -/
theorem LeftAlone.getRoute_wait_eq {before after waited : Gateway}
    (h : LeftAlone before after) (hwaited : Idles before waited)
    (hnow : after.now = waited.now) (ms : Nat) (key : String) :
    ((after.wait ms).getRoute key).1 = ((waited.wait ms).getRoute key).1 := by
  rw [getRoute_wait_fst, getRoute_wait_fst, h.routeAt_eq (Nat.le_add_right _ _),
    hwaited.routeAt_eq (Nat.le_add_right _ _), hnow]

/-! ## The four kinds of call -/

section

variable {gateway : Gateway} {error : GatewayError}

theorem leftAlone_searchAmong_of_error {request : SearchRequest}
    {participants : List Participant} {timeout : Nat}
    (herror : (gateway.searchAmong request participants timeout).result = .error error) :
    LeftAlone gateway (gateway.searchAmong request participants timeout).gateway where
  table_eq := table_searchAmong_of_error request timeout herror
  writes := by
    have hwrites := gateway.writes_searchAmong request participants timeout
    simp only [searchEvents, herror] at hwrites
    exact hwrites

theorem leftAlone_price_of_error {key : String} {request : PriceRequest}
    (herror : (gateway.price key request).result = .error error) :
    LeftAlone gateway (gateway.price key request).gateway where
  table_eq := table_consult_of_error _ _ (fun _ _ _ => rfl) herror
  writes := by
    have hwrites := gateway.writes_price key request
    simp only [pricingEvents, herror] at hwrites
    exact hwrites

theorem leftAlone_seatMap_of_error {key : String}
    (herror : (gateway.seatMap key).result = .error error) :
    LeftAlone gateway (gateway.seatMap key).gateway where
  table_eq := table_consult_of_error _ _ (fun _ _ _ => rfl) herror
  writes := gateway.writes_consult (fun _ _ _ => rfl) (fun _ _ _ => rfl) key

theorem leftAlone_order (gateway : Gateway) (key : String) (request : OrderRequest) :
    LeftAlone gateway (gateway.order key request).gateway where
  table_eq := gateway.table_order key request
  writes := gateway.writes_consult (fun _ _ _ => rfl) (fun _ _ _ => rfl) key

end

theorem leftAlone_of_failure {gateway : Gateway} {action : Action} {error : GatewayError}
    (h : (gateway.perform action).response.failure? = some error) :
    LeftAlone gateway (gateway.perform action).gateway := by
  cases action with
  | search request =>
      cases hresult : (gateway.search request).result with
      | ok report => simp [perform, Step.performed, hresult, Response.failure?] at h
      | error error => exact leftAlone_searchAmong_of_error hresult
  | searchAmong request participants timeout =>
      cases hresult : (gateway.searchAmong request participants timeout).result with
      | ok report => simp [perform, Step.performed, hresult, Response.failure?] at h
      | error error => exact leftAlone_searchAmong_of_error hresult
  | price key request =>
      cases hresult : (gateway.price key request).result with
      | ok priced => simp [perform, Step.performed, hresult, Response.failure?] at h
      | error error => exact leftAlone_price_of_error hresult
  | seatMap key =>
      cases hresult : (gateway.seatMap key).result with
      | ok seats => simp [perform, Step.performed, hresult, Response.failure?] at h
      | error error => exact leftAlone_seatMap_of_error hresult
  | order key request => exact gateway.leftAlone_order key request
  | _ => simp [perform, Response.failure?] at h

/-- After a search or a call on an offer that fails, and after every order, names are
what they were, the source of keys stands where it stood, and every look-up of a route
gives what it would have given if the call had not been made but only its time had
passed. -/
theorem failed_calls_change_nothing (gateway : Gateway) (action : Action)
    (h : (∃ error, (gateway.perform action).response.failure? = some error) ∨
      ∃ key request, action = .order key request) :
    let after := (gateway.perform action).gateway
    let waited := gateway.wait (after.now - gateway.now)
    after.table = gateway.table ∧ after.now = waited.now ∧
      ∀ ms key, ((after.wait ms).getRoute key).1 = ((waited.wait ms).getRoute key).1 := by
  intro after waited
  have halone : LeftAlone gateway after := by
    rcases h with ⟨error, hfailure⟩ | ⟨key, request, rfl⟩
    · exact leftAlone_of_failure hfailure
    · exact gateway.leftAlone_order key request
  have hnow : after.now = gateway.now + (after.now - gateway.now) := by
    have := halone.writes.now_le
    omega
  exact ⟨halone.table_eq, hnow, halone.getRoute_wait_eq (gateway.idles_wait _) hnow⟩

theorem route_survives_failed_search :
    let gateway := (Gateway.new .empty {} (.empty (.numbered "k"))).putRoute "k0" ⟨"a", "x"⟩
    let action := Action.searchAmong default
      [.guest "a" (.replying { delay := 7, answer := .failure "closed" })] 3
    let after := (gateway.perform action).gateway
    (gateway.perform action).response.failure? =
        some (.noResults [⟨"a", .timedOut 3⟩]) ∧
      ((after.wait 5).getRoute "k0").1 = some ⟨"a", "x"⟩ := by
  intro gateway action after
  have hfailure : (gateway.perform action).response.failure? =
      some (.noResults [⟨"a", .timedOut 3⟩]) := by
    decide +kernel
  obtain ⟨-, -, hfound⟩ := gateway.failed_calls_change_nothing action (.inl ⟨_, hfailure⟩)
  exact ⟨hfailure, (hfound 5 "k0").trans (by decide +kernel)⟩

end Gateway

end FareGateway
