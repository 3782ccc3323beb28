import FareGateway.Proofs.Merging
import FareGateway.Proofs.Stages

/-!
# How tables grow

Whatever a gateway does, short of forgetting or replacing all names, names what it
tells of and does nothing else to its table.  For each call that gives names this
says which, and in what its answer differs from that of the provider: every id is
replaced by its key in the table that the call leaves.
-/

namespace FareGateway

namespace Gateway

variable {gateway : Gateway} {key : String} {route : Route}

theorem onTable_of_names {α : Type} {act : StateM Correlation.Table α}
    {origins : List Origin} {value : Correlation.Table → α} (h : Names act origins value)
    (gateway : Gateway) :
    let named := gateway.table.nameAll (origins.map Origin.text)
    (gateway.onTable act).1 = value named ∧ (gateway.onTable act).2.table = named := by
  simp only [onTable, h.run_eq gateway.table, and_self]

theorem price_of_heard (request : PriceRequest) {native : PricedOffer}
    (h : gateway.heard? key Provider.replyPrice = some (route, native)) :
    let step := gateway.price key request
    let named := gateway.table.nameAll ((native.mentions route.provider).map Origin.text)
    step.result = .ok (native.rename (named.name route.provider)) ∧
      step.gateway.table = named := by
  obtain ⟨moment, htable, hresult, hidles⟩ := consult_of_heard (.price · request)
    (fun route native gateway => gateway.keepPriced route native) (fun _ _ _ => rfl) h
  obtain ⟨hpriced, hnamed⟩ :=
    onTable_of_names (native.names_correlated route.provider) moment
  rw [htable] at hpriced hnamed
  exact ⟨hresult.trans (congrArg _ hpriced), hidles.table_eq.trans hnamed⟩

theorem seatMap_of_heard {native : ProviderSeatMap}
    (h : gateway.heard? key Provider.replySeatMap = some (route, native)) :
    let step := gateway.seatMap key
    let named := gateway.table.nameAll ((native.mentions route.provider).map Origin.text)
    step.result = .ok (native.rename (named.name route.provider)) ∧
      step.gateway.table = named := by
  obtain ⟨moment, htable, hresult, hidles⟩ := consult_of_heard .seatMap
    (fun route native gateway => gateway.onTable (native.correlated route.provider))
    (fun _ _ _ => rfl) h
  obtain ⟨hseats, hnamed⟩ :=
    onTable_of_names (native.names_correlated route.provider) moment
  rw [htable] at hseats hnamed
  exact ⟨hresult.trans (congrArg _ hseats), hidles.table_eq.trans hnamed⟩

theorem price_of_not_heard (request : PriceRequest)
    (h : gateway.heard? key Provider.replyPrice = none) :
    (∃ error, (gateway.price key request).result = .error error) ∧
      (gateway.price key request).gateway.table = gateway.table :=
  consult_of_not_heard (.price · request)
    (fun route native gateway => gateway.keepPriced route native) (fun _ _ _ => rfl) h

theorem seatMap_of_not_heard (h : gateway.heard? key Provider.replySeatMap = none) :
    (∃ error, (gateway.seatMap key).result = .error error) ∧
      (gateway.seatMap key).gateway.table = gateway.table :=
  consult_of_not_heard .seatMap
    (fun route (native : ProviderSeatMap) gateway =>
      gateway.onTable (native.correlated route.provider))
    (fun _ _ _ => rfl) h

theorem table_order (gateway : Gateway) (key : String) (request : OrderRequest) :
    (gateway.order key request).gateway.table = gateway.table := by
  cases hheard : gateway.heard? key Provider.replyOrder with
  | none =>
      exact (consult_of_not_heard (.order · request)
        (fun _ order gateway => (order, gateway)) (fun _ _ _ => rfl) hheard).2
  | some heard =>
      obtain ⟨moment, htable, -, hidles⟩ := consult_of_heard (.order · request)
        (fun _ order gateway => (order, gateway)) (fun _ _ _ => rfl) hheard
      exact hidles.table_eq.trans htable

theorem exists_nameAll_searchAmong (gateway : Gateway) (request : SearchRequest)
    (participants : List Participant) (timeout : Nat) :
    ∃ nativeKeys, (gateway.searchAmong request participants timeout).gateway.table =
      gateway.table.nameAll nativeKeys := by
  cases hresult : (gateway.searchAmong request participants timeout).result with
  | error error => exact ⟨[], table_searchAmong_of_error request timeout hresult⟩
  | ok report =>
      obtain ⟨-, -, htable⟩ := searchAmong_eq_ok request timeout hresult
      rw [mergeResults_eq] at htable
      exact ⟨_, htable⟩

end Gateway

/-- What an action may do without forgetting names. -/
def Action.KeepsNames : Action → Prop
  | .resetNames => False
  | .replaceNames _ => False
  | _ => True

namespace Gateway

theorem exists_nameAll_perform (gateway : Gateway) {action : Action}
    (h : action.KeepsNames) :
    ∃ nativeKeys, (gateway.perform action).gateway.table =
      gateway.table.nameAll nativeKeys := by
  cases action with
  | resetNames => exact absurd h id
  | replaceNames pairs => exact absurd h id
  | search request => exact gateway.exists_nameAll_searchAmong request _ _
  | searchAmong request participants timeout =>
      exact gateway.exists_nameAll_searchAmong request participants timeout
  | price key request =>
      cases hheard : gateway.heard? key Provider.replyPrice with
      | none => exact ⟨[], (price_of_not_heard request hheard).2⟩
      | some heard => exact ⟨_, (price_of_heard request hheard).2⟩
  | seatMap key =>
      cases hheard : gateway.heard? key Provider.replySeatMap with
      | none => exact ⟨[], (seatMap_of_not_heard hheard).2⟩
      | some heard => exact ⟨_, (seatMap_of_heard hheard).2⟩
  | order key request => exact ⟨[], gateway.table_order key request⟩
  | keyOf nativeKey => exact ⟨[nativeKey], rfl⟩
  | _ => exact ⟨[], rfl⟩

theorem extends_perform (gateway : Gateway) {action : Action} (h : action.KeepsNames) :
    gateway.table.Extends (gateway.perform action).gateway.table := by
  obtain ⟨nativeKeys, htable⟩ := gateway.exists_nameAll_perform h
  rw [htable]
  exact gateway.table.extends_nameAll nativeKeys

theorem oneToOne_perform {gateway : Gateway} (htable : gateway.table.OneToOne)
    {action : Action} (h : action.KeepsNames) :
    (gateway.perform action).gateway.table.OneToOne := by
  obtain ⟨nativeKeys, hnamed⟩ := gateway.exists_nameAll_perform h
  rw [hnamed]
  exact htable.nameAll nativeKeys

end Gateway

end FareGateway
