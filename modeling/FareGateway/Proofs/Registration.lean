import FareGateway.Proofs.PlainIds

/-!
# Who is registered

The first provider with an id keeps it, and whoever comes with it later is refused and leaves
no trace.  So nobody is listed twice in a search of all registered providers, whatever the
gateway has done before, and such a search finds nobody only if nobody has been registered.
-/

namespace FareGateway

namespace Registry

variable {ρ : Type}

/-! ## One call -/

theorem register_of_mem {registry : Registry ρ} {id : String} (h : id ∈ registry.ids)
    (provider : ρ) : registry.register id provider = .error (.duplicate id) :=
  if_pos (Dict.contains_iff.mpr h)

theorem register_of_not_mem {registry : Registry ρ} {id : String} (h : id ∉ registry.ids)
    (provider : ρ) :
    registry.register id provider = .ok ⟨registry.providers.insert id provider⟩ :=
  if_neg (mt Dict.contains_iff.mp h)

/-! ## Many calls -/

theorem registerAll_append (registry : Registry ρ) (first second : List (String × ρ)) :
    registry.registerAll (first ++ second) =
      let before := registry.registerAll first
      let after := before.2.registerAll second
      (before.1 ++ after.1, after.2) := by
  induction first generalizing registry with
  | nil => rfl
  | cons call first ih =>
      obtain ⟨id, provider⟩ := call
      rw [List.cons_append, registerAll, registerAll]
      cases registry.register id provider <;> simp only [ih, List.cons_append]

theorem length_outcomes (registry : Registry ρ) (calls : List (String × ρ)) :
    (registry.registerAll calls).1.length = calls.length := by
  induction calls generalizing registry with
  | nil => rfl
  | cons call calls ih =>
      obtain ⟨id, provider⟩ := call
      rw [registerAll]
      cases registry.register id provider <;> simp only [ih, List.length_cons]

section

variable {calls : List (String × ρ)} {call : String × ρ}

theorem mem_ids_registerAll {id : String} :
    id ∈ (empty.registerAll calls).2.ids ↔ id ∈ calls.map Prod.fst := by
  rw [ids_registerAll, List.mem_eraseDups]

theorem ids_registerAll_eq_nil_iff : (empty.registerAll calls).2.ids = [] ↔ calls = [] := by
  rw [ids_registerAll]
  cases calls with
  | nil => exact iff_of_true rfl rfl
  | cons call calls => simp [List.eraseDups_cons]

theorem registerAll_concat_of_mem (h : call.1 ∈ calls.map Prod.fst) :
    empty.registerAll (calls ++ [call]) =
      ((empty.registerAll calls).1 ++ [.error (.duplicate call.1)],
        (empty.registerAll calls).2) := by
  rw [registerAll_append]
  simp only [registerAll, register_of_mem (mem_ids_registerAll.mpr h)]

theorem registerAll_concat_of_not_mem (h : call.1 ∉ calls.map Prod.fst) :
    empty.registerAll (calls ++ [call]) =
      ((empty.registerAll calls).1 ++ [.ok ()],
        ⟨(empty.registerAll calls).2.providers.insert call.1 call.2⟩) := by
  rw [registerAll_append]
  simp only [registerAll, register_of_not_mem (mt mem_ids_registerAll.mp h)]

end

/-- The calls that were not refused. -/
def accepted (calls : List (String × ρ)) (outcomes : List (Except RegistrationError Unit)) :
    List (String × ρ) :=
  ((calls.zip outcomes).filter fun told => told.2.isOk).map Prod.fst

theorem accepted_concat {calls : List (String × ρ)}
    {outcomes : List (Except RegistrationError Unit)} (h : outcomes.length = calls.length)
    (call : String × ρ) (outcome : Except RegistrationError Unit) :
    accepted (calls ++ [call]) (outcomes ++ [outcome]) =
      accepted calls outcomes ++ if outcome.isOk then [call] else [] := by
  rw [accepted, List.zip_append h.symm, List.filter_append, List.map_append]
  cases outcome <;> rfl

theorem entries_registerAll (calls : List (String × ρ)) :
    (empty.registerAll calls).2.providers.entries =
      accepted calls (empty.registerAll calls).1 := by
  induction calls using List.reverseRecOn with
  | nil => rfl
  | append_singleton calls call ih =>
      by_cases hheld : call.1 ∈ calls.map Prod.fst
      · rw [registerAll_concat_of_mem hheld, accepted_concat (length_outcomes _ _), ← ih]
        exact (List.append_nil _).symm
      · rw [registerAll_concat_of_not_mem hheld, accepted_concat (length_outcomes _ _), ← ih]
        exact Dict.entries_insert_of_not_mem call.2 (mt mem_ids_registerAll.mp hheld)

theorem getElem?_outcomes (before : List (String × ρ)) (call : String × ρ)
    (after : List (String × ρ)) :
    (empty.registerAll (before ++ call :: after)).1[before.length]? =
      some (if call.1 ∈ before.map Prod.fst then .error (.duplicate call.1) else .ok ()) := by
  rw [List.append_cons, registerAll_append]
  by_cases hheld : call.1 ∈ before.map Prod.fst
  · simp [registerAll_concat_of_mem hheld, hheld, length_outcomes]
  · simp [registerAll_concat_of_not_mem hheld, hheld, length_outcomes]

theorem get?_registerAll (calls : List (String × ρ)) (id : String) :
    (empty.registerAll calls).2.get? id =
      (calls.find? fun call => decide (call.1 = id)).map Prod.snd := by
  calc (empty.registerAll calls).2.get? id
      = (Dict.empty.get? id).or (Entries.get? id calls) := by
        rw [get?, providers_registerAll, Dict.get?_insertNew]
        rfl
    _ = Entries.get? id (calls.map fun call => (call.1, call.2)) := by
        rw [Dict.get?_empty, Option.none_or, List.map_id']
    _ = (calls.find? fun call => decide (call.1 = id)).map Prod.snd :=
        Entries.get?_map Prod.fst Prod.snd id calls

end Registry

namespace Gateway

/-! ## Searching among all -/

theorem resolve_registered (gateway : Gateway) :
    gateway.resolve (gateway.registry.ids.map .registered) =
      gateway.registry.providers.entries := by
  rw [resolve, List.filterMap_map, Registry.ids, Dict.keys, List.filterMap_map]
  have hfound : ∀ entry ∈ gateway.registry.providers.entries,
      (gateway.registry.get? entry.1).map (entry.1, ·) = some entry := fun entry hmem => by
    rw [Registry.get?, Dict.get?_eq_some_iff.mpr hmem, Option.map_some]
  exact (List.filterMap_congr hfound).trans List.filterMap_some

theorem ids_after {gateway : Gateway} {actions : List Action}
    (h : ∀ action ∈ actions, action.KeepsProviders) :
    (gateway.after actions).registry.ids = gateway.registry.ids :=
  after_induction (p := fun current => current.registry.ids = gateway.registry.ids)
    (fun current hids action hmem => (current.ids_perform (h action hmem)).trans hids) rfl

theorem exists_report_or_noResults {gateway : Gateway} {participants : List Participant}
    (request : SearchRequest) (timeout : Nat) (hsome : gateway.resolve participants ≠ [])
    (hids : ((gateway.resolve participants).map Prod.fst).Nodup) :
    let result := (gateway.searchAmong request participants timeout).result
    (∃ report, result = .ok report) ∨ ∃ causes, result = .error (.noResults causes) := by
  have hdistinct := firstRepeated?_nil_eq_none_iff.mpr hids
  by_cases hanswered : gateway.answers participants timeout = []
  · exact .inr ⟨_, (searchAmong_of_nobody request timeout hsome hdistinct hanswered).1⟩
  · exact .inl ⟨_, (searchAmong_of_answered request timeout hsome hdistinct hanswered).1⟩

theorem search_among_registered (gateway : Gateway) (request : SearchRequest) :
    (∀ error, (gateway.search request).result ≠ .error (.registry error)) ∧
      ((gateway.search request).result = .error .noProviders ↔ gateway.registry.ids = []) := by
  have hresolve := gateway.resolve_registered
  unfold search
  by_cases hnobody : gateway.registry.ids = []
  · have hempty : gateway.resolve (gateway.registry.ids.map .registered) = [] := by
      rw [hresolve]
      exact List.map_eq_nil_iff.mp hnobody
    rw [searchAmong_of_resolve_eq_nil request _ hempty]
    exact ⟨nofun, iff_of_true rfl hnobody⟩
  · have hsome : gateway.resolve (gateway.registry.ids.map .registered) ≠ [] := by
      rw [hresolve]
      exact mt List.map_eq_nil_iff.mpr hnobody
    have hids : ((gateway.resolve (gateway.registry.ids.map .registered)).map
        Prod.fst).Nodup := by
      rw [hresolve]
      exact gateway.registry.providers.nodup_keys
    obtain ⟨report, hreport⟩ | ⟨causes, hcauses⟩ :=
      exists_report_or_noResults request gateway.settings.searchTimeoutMs.toNat hsome hids
    · rw [hreport]
      exact ⟨nofun, iff_of_false nofun hnobody⟩
    · rw [hcauses]
      exact ⟨nofun, iff_of_false nofun hnobody⟩

/--
A registry holds the providers whose ids nobody before them had, in the order of the calls,
each id once.  A look-up finds the first provider with an id, or nobody if none has come with
it.  A call with an id that is taken is refused with that id and changes nothing.  Hence a
gateway with such a registry, after whatever it has done, does not refuse a search of all
registered providers because of an id, and has nobody to ask only if nobody was registered.
-/
theorem first_registration_stands (calls : List (String × Provider)) :
    let outcomes := (Registry.empty.registerAll calls).1
    let registry := (Registry.empty.registerAll calls).2
    outcomes.length = calls.length ∧
    (∀ before call after, calls = before ++ call :: after →
      outcomes[before.length]? = some
        (if call.1 ∈ before.map Prod.fst then .error (.duplicate call.1) else .ok ())) ∧
    registry.providers.entries = Registry.accepted calls outcomes ∧
    registry.ids.Nodup ∧
    (∀ id, registry.get? id = (calls.find? fun call => decide (call.1 = id)).map Prod.snd) ∧
    (∀ id, registry.get? id = none ↔ id ∉ calls.map Prod.fst) ∧
    (∀ call, call.1 ∈ calls.map Prod.fst →
      registry.register call.1 call.2 = .error (.duplicate call.1) ∧
        (Registry.empty.registerAll (calls ++ [call])).2 = registry) ∧
    ∀ gateway : Gateway, gateway.registry = registry →
      ∀ actions : List Action, (∀ action ∈ actions, action.KeepsProviders) →
      ∀ request : SearchRequest,
        let result := ((gateway.after actions).search request).result
        (∀ error, result ≠ .error (.registry error)) ∧
          (result = .error .noProviders ↔ calls = []) := by
  intro outcomes registry
  refine ⟨Registry.length_outcomes _ _, ?_, Registry.entries_registerAll calls,
    registry.providers.nodup_keys, Registry.get?_registerAll calls, fun id => ?_,
    fun call hheld => ⟨?_, ?_⟩, ?_⟩
  · rintro before call after rfl
    exact Registry.getElem?_outcomes before call after
  · exact Dict.get?_eq_none_iff.trans (not_congr Registry.mem_ids_registerAll)
  · exact Registry.register_of_mem (Registry.mem_ids_registerAll.mpr hheld) call.2
  · rw [Registry.registerAll_concat_of_mem hheld]
  · intro gateway hregistry actions hkeeps request result
    obtain ⟨hdistinct, hnobody⟩ := (gateway.after actions).search_among_registered request
    rw [ids_after hkeeps, hregistry] at hnobody
    exact ⟨hdistinct, hnobody.trans Registry.ids_registerAll_eq_nil_iff⟩

/-- The second provider comes with the id of the first, and again after a search. -/
theorem second_registration_is_refused :
    let failing (cause : String) : Provider := {
      search := { next := { answer := .failure cause } }
      price := { next := .lacking "pricing" } }
    let first := failing "closed"
    let calls := [("a", first), ("a", failing "busy"), ("b", failing "gone")]
    let outcomes := (Registry.empty.registerAll calls).1
    let registry := (Registry.empty.registerAll calls).2
    let gateway := Gateway.new registry {} (.empty (.numbered "k"))
    outcomes[1]? = some (.error (.duplicate "a")) ∧ registry.ids = ["a", "b"] ∧
      registry.get? "a" = some first ∧ registry.get? "c" = none ∧
      registry.register "b" first = .error (.duplicate "b") ∧
      ∀ error, ((gateway.after [.search default]).search default).result ≠
        .error (.registry error) := by
  intro failing first calls outcomes registry gateway
  obtain ⟨-, houtcomes, -, -, hfound, hnobody, hrefused, hsearch⟩ :=
    first_registration_stands calls
  have hkeeps : ∀ action ∈ [Action.search default], action.KeepsProviders :=
    List.forall_mem_singleton.mpr trivial
  refine ⟨houtcomes [("a", first)] _ _ rfl, by decide, hfound "a", (hnobody "c").mpr ?_,
    (hrefused ("b", first) ?_).1, (hsearch gateway rfl _ hkeeps default).1⟩
  · decide
  · decide

end Gateway

end FareGateway
