import FareGateway.Proofs.Hearing
import FareGateway.Proofs.Persistence
import FareGateway.Proofs.Showing

/-!
# Names are permanent

Between two calls anything may happen that forgets no names: other calls, waiting, new
providers, and that the names are stored and another gateway takes over which has
loaded them.  The table only grows in all of this.  Every response is therefore the
same as if the keys were looked up in the last table of all, and a search that finds
the same once more finds everything named.
-/

namespace FareGateway

open Correlation

namespace Correlation.Table

/-! ## Tables that grow -/

def ExtendsBack (before after : Table) : Prop :=
  ∀ key nativeKey, before.reverse.get? key = some nativeKey →
    after.reverse.get? key = some nativeKey

theorem extendsBack_keyOf (table : Table) (nativeKey : String) :
    table.ExtendsBack (table.keyOf nativeKey).2 := by
  intro key other h
  cases hnative : table.forward.get? nativeKey with
  | some _ => simpa [keyOf_of_get? hnative] using h
  | none =>
      -- A new key is none of those that can be read back already.
      have hne : table.source.key (table.source.freshPosition table.reverse.keys) ≠ key := by
        rintro rfl
        have hfresh := table.source.key_freshPosition_not_mem table.reverse.keys
        rw [Dict.get?_eq_none_iff.mpr hfresh] at h
        cases h
      rw [keyOf_of_get?_eq_none hnative]
      exact (Dict.get?_insert_of_ne _ _ hne).trans h

theorem extendsBack_nameAll (table : Table) (nativeKeys : List String) :
    table.ExtendsBack (table.nameAll nativeKeys) := by
  induction nativeKeys generalizing table with
  | nil => exact fun _ _ h => h
  | cons nativeKey nativeKeys ih =>
      exact fun key other h => ih _ key other (table.extendsBack_keyOf nativeKey key other h)

theorem LoadedFrom.nameAll {table : Table} {loaded : List (String × String)}
    (h : table.LoadedFrom loaded) (nativeKeys : List String) :
    (table.nameAll nativeKeys).LoadedFrom loaded := by
  induction nativeKeys generalizing table with
  | nil => exact h
  | cons nativeKey nativeKeys ih => exact ih (h.keyOf nativeKey)

end Correlation.Table

/-! ## Passages -/

/-- What comes between two calls: an action, or that the names are stored and another
gateway takes over, with a source of its own. -/
inductive Passage where
  | act (action : Action)
  | takeOver (next : Gateway) (source : KeySource)

def Passage.KeepsNames : Passage → Prop
  | .act action => action.KeepsNames
  | .takeOver _ _ => True

namespace Gateway

def pass (gateway : Gateway) : Passage → Gateway
  | .act action => (gateway.perform action).gateway
  | .takeOver next source =>
      { next with table := .ofPairs source gateway.table.pairs }

def passAll (gateway : Gateway) (passages : List Passage) : Gateway :=
  passages.foldl pass gateway

variable {gateway : Gateway}

theorem extends_pass (gateway : Gateway) {passage : Passage} (h : passage.KeepsNames) :
    gateway.table.Extends (gateway.pass passage).table := by
  cases passage with
  | act action => exact gateway.extends_perform h
  | takeOver next source =>
      intro nativeKey key hkey
      exact (Table.get?_forward_ofPairs_pairs _ source nativeKey).trans hkey

theorem extends_passAll (gateway : Gateway) {passages : List Passage}
    (h : ∀ passage ∈ passages, passage.KeepsNames) :
    gateway.table.Extends (gateway.passAll passages).table :=
  List.foldlRecOn (motive := fun current => gateway.table.Extends current.table) passages pass
    (.refl _) fun current hextends passage hmem =>
      hextends.trans (current.extends_pass (h passage hmem))

theorem extendsBack_pass {loaded : List (String × String)}
    (htable : gateway.table.LoadedFrom loaded) {passage : Passage}
    (h : passage.KeepsNames) :
    gateway.table.ExtendsBack (gateway.pass passage).table ∧
      ∃ loaded, (gateway.pass passage).table.LoadedFrom loaded := by
  cases passage with
  | act action =>
      obtain ⟨nativeKeys, hnamed⟩ := gateway.exists_nameAll_perform h
      rw [pass, hnamed]
      exact ⟨gateway.table.extendsBack_nameAll nativeKeys, loaded, htable.nameAll nativeKeys⟩
  | takeOver next source =>
      -- Only the forward dictionary is stored, and it tells what every key is read back as.
      have hrestored := Table.loadedFrom_replace (.empty source) gateway.table.pairs
      refine ⟨fun key nativeKey hback => ?_, _, hrestored⟩
      exact (hrestored.get?_reverse_eq htable
        (gateway.table.get?_forward_ofPairs_pairs source) key).trans hback

theorem extendsBack_passAll {loaded : List (String × String)}
    (htable : gateway.table.LoadedFrom loaded) {passages : List Passage}
    (h : ∀ passage ∈ passages, passage.KeepsNames) :
    gateway.table.ExtendsBack (gateway.passAll passages).table := by
  -- What keeps the run going is that every table on the way has been loaded from something.
  have hrun := List.foldlRecOn
    (motive := fun current => gateway.table.ExtendsBack current.table ∧
      ∃ loaded, current.table.LoadedFrom loaded)
    passages pass ⟨fun _ _ hback => hback, loaded, htable⟩
    fun current hcurrent passage hmem => by
      obtain ⟨hback, _, hloaded⟩ := hcurrent
      obtain ⟨hnext, hstill⟩ := extendsBack_pass hloaded (h passage hmem)
      exact ⟨fun key nativeKey hkey => hnext key nativeKey (hback key nativeKey hkey), hstill⟩
  exact hrun.1

/-! ## Responses under the keys of a table -/

def underKeys (table : Table) (answered : List (String × SearchResults))
    (result : Except GatewayError SearchReport) : Except GatewayError SearchReport :=
  result.map fun report =>
    { report with
      results := (joined table answered).results
      origins := (joined table answered).origins }

/-- The response to an action, with every id that a provider told of replaced by its key
in the table. -/
def responseUnder (gateway : Gateway) (table : Table) : Action → Response
  | .search request =>
      .report (underKeys table
        (gateway.answers (gateway.registry.ids.map .registered)
          gateway.settings.searchTimeoutMs.toNat)
        (gateway.search request).result)
  | .searchAmong request participants timeout =>
      .report (underKeys table (gateway.answers participants timeout)
        (gateway.searchAmong request participants timeout).result)
  | .price key request =>
      match gateway.heard? key Provider.replyPrice with
      | some (route, native) => .priced (.ok (native.rename (table.name route.provider)))
      | none => .priced (gateway.price key request).result
  | .seatMap key =>
      match gateway.heard? key Provider.replySeatMap with
      | some (route, native) => .seats (.ok (native.rename (table.name route.provider)))
      | none => .seats (gateway.seatMap key).result
  | .keyOf nativeKey => .key (table.keyOf nativeKey).1
  | action => (gateway.perform action).response

theorem underKeys_searchAmong (request : SearchRequest) (participants : List Participant)
    (timeout : Nat) {later : Table}
    (hlater : (gateway.searchAmong request participants timeout).gateway.table.Extends later) :
    underKeys later (gateway.answers participants timeout)
        (gateway.searchAmong request participants timeout).result =
      (gateway.searchAmong request participants timeout).result := by
  cases hresult : (gateway.searchAmong request participants timeout).result with
  | error error => rfl
  | ok report =>
      obtain ⟨-, rfl, hnamed⟩ := searchAmong_eq_ok request timeout hresult
      rw [hnamed] at hlater
      simp only [underKeys, Except.map, mergeResults_fst_of_extends hlater]

/-- A response shows everything under the key that it has from then on. -/
theorem response_perform {action : Action} {later : Table}
    (hlater : (gateway.perform action).gateway.table.Extends later) :
    (gateway.perform action).response = gateway.responseUnder later action := by
  cases action with
  | search request =>
      exact congrArg Response.report (underKeys_searchAmong request _ _ hlater).symm
  | searchAmong request participants timeout =>
      exact congrArg Response.report
        (underKeys_searchAmong request participants timeout hlater).symm
  | price key request =>
      cases hheard : gateway.heard? key Provider.replyPrice with
      | none =>
          simp only [responseUnder, hheard]
          rfl
      | some heard =>
          obtain ⟨hresult, hnamed⟩ := price_of_heard request hheard
          have hextends : (gateway.price key request).gateway.table.Extends later := hlater
          rw [hnamed] at hextends
          simp only [responseUnder, hheard,
            ← (heard.2.names_correlated heard.1.provider).value_eq_of_extends hextends]
          exact congrArg Response.priced hresult
  | seatMap key =>
      cases hheard : gateway.heard? key Provider.replySeatMap with
      | none =>
          simp only [responseUnder, hheard]
          rfl
      | some heard =>
          obtain ⟨hresult, hnamed⟩ := seatMap_of_heard hheard
          have hextends : (gateway.seatMap key).gateway.table.Extends later := hlater
          rw [hnamed] at hextends
          simp only [responseUnder, hheard,
            ← (heard.2.names_correlated heard.1.provider).value_eq_of_extends hextends]
          exact congrArg Response.seats hresult
  | keyOf nativeKey =>
      have hkey := hlater _ _ (gateway.table.get?_keyOf_self nativeKey)
      simp only [responseUnder, Table.keyOf_of_get? hkey]
      rfl
  | _ => rfl

/-! ## Searches that are repeated -/

def searched? (gateway : Gateway) :
    Action → Option (List (String × Except Diagnostic.Cause SearchResults))
  | .search _ =>
      some (outcomesAmong gateway.settings.searchTimeoutMs.toNat
        (gateway.resolve (gateway.registry.ids.map .registered)))
  | .searchAmong _ participants timeout =>
      some (outcomesAmong timeout (gateway.resolve participants))
  | _ => none

theorem perform_of_searched {action : Action}
    {found : List (String × Except Diagnostic.Cause SearchResults)}
    (h : gateway.searched? action = some found) :
    (gateway.perform action).response = .report (reportOn gateway.table found).1 ∧
      (gateway.perform action).gateway.table = (reportOn gateway.table found).2 := by
  cases action with
  | search request =>
      cases h
      rw [← gateway.searchAmong_eq_reportOn request]
      exact ⟨rfl, rfl⟩
  | searchAmong request participants timeout =>
      cases h
      rw [← gateway.searchAmong_eq_reportOn request]
      exact ⟨rfl, rfl⟩
  | _ => cases h

theorem reportOn_of_extends {table later : Table}
    {found : List (String × Except Diagnostic.Cause SearchResults)}
    (h : (reportOn table found).2.Extends later) :
    reportOn later found = ((reportOn table found).1, later) := by
  by_cases hsome : found = []
  · simp [reportOn, hsome]
  cases hrepeated : firstRepeated? [] (found.map Prod.fst) with
  | some id => simp [reportOn, hsome, hrepeated]
  | none =>
      by_cases hanswered : successes found = []
      · simp [reportOn, hsome, hrepeated, hanswered]
      · simp only [reportOn, hsome, hrepeated, hanswered, if_false] at h ⊢
        rw [mergeResults_of_extends h]

/--
Names are permanent, and searches that are repeated come to the same.  Over any run that
forgets no names, also when they are stored and loaded in between, no entry of the table
is changed or lost, and every response shows each entity under the key that it has in the
last table.  A search that finds of the same providers what an earlier one of the run has
found has the same response, and leaves the table and its source as they are.
-/
theorem names_are_permanent (gateway : Gateway) {passages : List Passage}
    (h : ∀ passage ∈ passages, passage.KeepsNames) :
    let final := gateway.passAll passages
    gateway.table.Extends final.table ∧
    (∀ loaded, gateway.table.LoadedFrom loaded → gateway.table.ExtendsBack final.table) ∧
    ∀ before action later, passages = before ++ .act action :: later →
      let moment := gateway.passAll before
      let performed := moment.perform action
      performed.response = moment.responseUnder final.table action ∧
      (∀ origin ∈ moment.sources action,
        final.table.forward.get? origin.text =
          some (performed.gateway.table.nameOf origin)) ∧
      ∀ found again, moment.searched? action = some found →
        final.searched? again = some found →
          (final.perform again).response = performed.response ∧
            (final.perform again).gateway.table = final.table := by
  intro final
  refine ⟨gateway.extends_passAll h, fun _ htable => extendsBack_passAll htable h, ?_⟩
  rintro before action later rfl moment performed
  have hlater : performed.gateway.table.Extends final.table := by
    have hfinal : final = performed.gateway.passAll later := List.foldl_append
    rw [hfinal]
    refine performed.gateway.extends_passAll fun passage hpassage => h passage ?_
    exact List.mem_append_right _ (List.mem_cons_of_mem _ hpassage)
  refine ⟨response_perform hlater, ?_, ?_⟩
  · intro origin horigin
    exact hlater _ _ (Table.get?_nameOf (contains_of_mem_sources horigin))
  · intro found again hfound hagain
    obtain ⟨hresponse, htable⟩ := perform_of_searched hfound
    have hrepeated := perform_of_searched hagain
    rw [htable] at hlater
    rw [reportOn_of_extends hlater] at hrepeated
    exact ⟨hrepeated.1.trans hresponse.symm, hrepeated.2⟩

/-- The same search before the names are stored and after another gateway has loaded
them, whose source gives other keys. -/
theorem search_repeats_after_take_over :
    let gateway := Gateway.new .empty {} (.empty (.numbered "k"))
    let provider := Provider.replying
      { answer := .success { offers := Dict.ofList [("x", default)] } }
    let search := Action.searchAmong default [.guest "a" provider] 3
    let passages : List Passage :=
      [.act search, .takeOver (.new .empty {} (.empty (.numbered "m"))) (.numbered "m")]
    let final := gateway.passAll passages
    (∀ passage ∈ passages, passage.KeepsNames) ∧
      (final.perform search).response = (gateway.perform search).response ∧
      (final.perform search).gateway.table = final.table ∧
      final.table.forward.get? "a|offer|x" = some "k0" := by
  intro gateway provider search passages final
  have hkeeps : ∀ passage ∈ passages, passage.KeepsNames := by
    simp [passages, search, Passage.KeepsNames, Action.KeepsNames]
  obtain ⟨-, -, hpassed⟩ := gateway.names_are_permanent hkeeps
  obtain ⟨-, hnamed, hrepeated⟩ := hpassed [] search _ rfl
  obtain ⟨hresponse, htable⟩ := hrepeated _ search rfl rfl
  have hkey : (gateway.perform search).gateway.table.nameOf ⟨"a", .offer, "x"⟩ = "k0" := by
    decide +kernel
  have hoffer := hnamed ⟨"a", .offer, "x"⟩ (by decide +kernel)
  exact ⟨hkeeps, hresponse, htable, hoffer.trans (congrArg some hkey)⟩

end Gateway

end FareGateway
