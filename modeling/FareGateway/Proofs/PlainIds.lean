import FareGateway.Proofs.Accounting
import FareGateway.Proofs.Growth
import FareGateway.Proofs.Routing

/-!
# Plain ids

The id of a provider is plain when it has no bar in it.  If all registered providers
have plain ids, then so have all that answer, unless an action lets somebody else in.
An ordinary action does not, and changes names and routes only by the way.
-/

namespace FareGateway

namespace Registry

variable {ρ : Type}

theorem ids_update (registry : Registry ρ) (id : String) (provider : ρ) :
    (registry.update id provider).ids = registry.ids := by
  unfold update
  by_cases h : registry.providers.contains id
  · rw [if_pos h]
    exact Dict.keys_insert_of_mem provider (Dict.contains_iff.mp h)
  · rw [if_neg h]

theorem mem_ids_of_get?_eq_some {registry : Registry ρ} {id : String} {provider : ρ}
    (h : registry.get? id = some provider) : id ∈ registry.ids :=
  List.mem_map_of_mem (Dict.get?_eq_some_iff.mp h)

/-- Of several providers with one id, the first is kept. -/
theorem providers_registerAll (registry : Registry ρ) (calls : List (String × ρ)) :
    (registry.registerAll calls).2.providers = registry.providers.insertNew calls := by
  induction calls generalizing registry with
  | nil => rfl
  | cons call calls ih =>
      obtain ⟨id, provider⟩ := call
      by_cases hheld : registry.providers.contains id
      · simp [registerAll, register, hheld, ih, Dict.insertNew]
      · simp [registerAll, register, hheld, ih, Dict.insertNew]

theorem ids_registerAll (calls : List (String × ρ)) :
    (empty.registerAll calls).2.ids = (calls.map Prod.fst).eraseDups := by
  rw [ids, providers_registerAll]
  exact Dict.keys_insertNew_empty calls

end Registry

namespace Gateway

theorem ids_afterReplies (gateway : Gateway) (participants : List Participant) :
    (gateway.afterReplies participants).registry.ids = gateway.registry.ids := by
  unfold afterReplies
  simp only
  generalize gateway.registry = registry
  induction participants generalizing registry with
  | nil => rfl
  | cons participant participants ih =>
      rw [List.foldl_cons, ih]
      cases participant with
      | guest id provider => rfl
      | registered id =>
          cases h : registry.get? id with
          | none => simp [h]
          | some provider => simp only [h, Registry.ids_update]

theorem ids_searchAmong (gateway : Gateway) (request : SearchRequest)
    (participants : List Participant) (timeout : Nat) :
    (gateway.searchAmong request participants timeout).gateway.registry.ids =
      gateway.registry.ids := by
  by_cases hsome : gateway.resolve participants = []
  · rw [searchAmong_of_resolve_eq_nil request timeout hsome]
  cases hrepeated : firstRepeated? [] ((gateway.resolve participants).map Prod.fst) with
  | some id => rw [searchAmong_of_repeated request timeout hrepeated]
  | none =>
      rw [registry_searchAmong request timeout hsome
        (firstRepeated?_nil_eq_none_iff.mp hrepeated), ids_afterReplies]

theorem ids_followUp (gateway : Gateway) (followUp : FollowUp) (key : String) :
    (gateway.perform (followUp.action key)).gateway.registry.ids =
      gateway.registry.ids := by
  cases hroute : gateway.routeAt gateway.now key with
  | none => rw [(perform_of_unknown followUp hroute).registry_eq]
  | some route =>
      cases hprovider : gateway.registry.get? route.provider with
      | none => rw [(perform_of_unregistered followUp hroute hprovider).registry_eq]
      | some provider =>
          rw [(perform_of_located followUp hroute hprovider).registry_eq,
            Registry.ids_update]

end Gateway

/-- An action that leaves in place who is registered. -/
def Action.KeepsProviders : Action → Prop
  | .rebuild _ _ => False
  | _ => True

theorem Gateway.ids_perform (gateway : Gateway) {action : Action} (h : action.KeepsProviders) :
    (gateway.perform action).gateway.registry.ids = gateway.registry.ids := by
  cases action with
  | search request => exact gateway.ids_searchAmong request _ _
  | searchAmong request participants timeout =>
      exact gateway.ids_searchAmong request participants timeout
  | price key request => exact gateway.ids_followUp (.price request) key
  | seatMap key => exact gateway.ids_followUp .seatMap key
  | order key request => exact gateway.ids_followUp (.order request) key
  | rebuild providers settings => exact h.elim
  | _ => rfl

def Participant.IsPlain : Participant → Prop
  | .registered _ => True
  | .guest id _ => '|' ∉ id.toList

/-- An action that changes names and routes only by the way, and lets nobody in who
has a bar in the id. -/
def Action.Ordinary : Action → Prop
  | .resetNames | .replaceNames _ | .putRoute _ _ => False
  | .searchAmong _ participants _ => ∀ participant ∈ participants, participant.IsPlain
  | .rebuild providers _ => ∀ id ∈ providers.map Prod.fst, '|' ∉ id.toList
  | _ => True

theorem Action.Ordinary.keepsNames {action : Action} (h : action.Ordinary) :
    action.KeepsNames := by
  cases action with
  | resetNames => exact h
  | replaceNames pairs => exact h
  | _ => trivial

namespace Gateway

def HasPlainIds (gateway : Gateway) : Prop :=
  ∀ id ∈ gateway.registry.ids, '|' ∉ id.toList

variable {gateway : Gateway}

theorem HasPlainIds.resolve (h : gateway.HasPlainIds) {participants : List Participant}
    (hguests : ∀ participant ∈ participants, participant.IsPlain) :
    ∀ id ∈ (gateway.resolve participants).map Prod.fst, '|' ∉ id.toList := by
  intro id hid
  obtain ⟨⟨_, provider⟩, hentry, rfl⟩ := List.mem_map.mp hid
  obtain ⟨participant, hmem, hfound⟩ := List.mem_filterMap.mp hentry
  cases participant with
  | guest other guest =>
      cases hfound
      exact hguests _ hmem
  | registered other =>
      obtain ⟨found, hget, hsame⟩ := Option.map_eq_some_iff.mp hfound
      cases hsame
      exact h _ (Registry.mem_ids_of_get?_eq_some hget)

theorem isPlain_registered (ids : List String) :
    ∀ participant ∈ ids.map Participant.registered, participant.IsPlain := by
  intro participant hmem
  obtain ⟨id, -, rfl⟩ := List.mem_map.mp hmem
  trivial

theorem HasPlainIds.perform (h : gateway.HasPlainIds) {action : Action}
    (hordinary : action.Ordinary) : (gateway.perform action).gateway.HasPlainIds := by
  have hsame (hkeeps : action.KeepsProviders) :
      (gateway.perform action).gateway.HasPlainIds := by
    rw [HasPlainIds, ids_perform gateway hkeeps]
    exact h
  cases action with
  | rebuild providers settings =>
      intro id hid
      exact hordinary id (List.mem_eraseDups.mp (Registry.ids_registerAll providers ▸ hid))
  | _ => exact hsame trivial

theorem plain_of_heard {α : Type} {key : String} {route : Route} {value : α}
    {ask : Provider → Reply α × Provider} (h : gateway.HasPlainIds)
    (hheard : gateway.heard? key ask = some (route, value)) :
    '|' ∉ route.provider.toList := by
  obtain ⟨-, provider, hprovider, -⟩ := heard?_eq_some_iff.mp hheard
  exact h _ (Registry.mem_ids_of_get?_eq_some hprovider)

end Gateway

end FareGateway
