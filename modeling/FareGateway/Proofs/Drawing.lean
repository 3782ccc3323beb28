import FareGateway.Proofs.Persistence
import Mathlib.Data.Nat.Find

/-!
# Drawing a fresh key

A new native key gets the first key of the source, from where it stands, that is not yet
the correlation key of anything.  The keys are drawn one by one and nothing bounds their
number beforehand; the drawing ends because a table has finitely many keys and the source
comes to one that is not among them.  What has been passed over is not drawn again.
-/

namespace FareGateway

namespace KeySource

/-- Where the drawing of a key stands, with the position of the source. -/
inductive Drawing where
  | trying (position : Nat)
  | settled (key : String) (position : Nat)
  deriving DecidableEq, Repr

def draw (key : Nat → String) (taken : List String) : Drawing → Drawing
  | .trying position =>
      if key position ∈ taken then .trying (position + 1)
      else .settled (key position) (position + 1)
  | drawing => drawing

def drawn (key : Nat → String) (taken : List String) (start : Nat) : Nat → Drawing
  | 0 => .trying start
  | draws + 1 => draw key taken (drawn key taken start draws)

/-- The position is the first one from the start on whose key is not taken. -/
structure FirstFree (key : Nat → String) (taken : List String) (start position : Nat) :
    Prop where
  start_le : start ≤ position
  free : key position ∉ taken
  before : ∀ earlier, start ≤ earlier → earlier < position → key earlier ∈ taken

variable {key : Nat → String} {taken : List String} {start position : Nat}

theorem draw_trying_of_mem (h : key position ∈ taken) :
    draw key taken (.trying position) = .trying (position + 1) :=
  if_pos h

theorem draw_trying_of_not_mem (h : key position ∉ taken) :
    draw key taken (.trying position) = .settled (key position) (position + 1) :=
  if_neg h

namespace FirstFree

theorem le_of_free (h : FirstFree key taken start position) {other : Nat}
    (hstart : start ≤ other) (hfree : key other ∉ taken) : position ≤ other :=
  Nat.le_of_not_lt fun hlt => hfree (h.before other hstart hlt)

theorem unique (h : FirstFree key taken start position) {other : Nat}
    (h' : FirstFree key taken start other) : position = other :=
  Nat.le_antisymm (h.le_of_free h'.start_le h'.free) (h'.le_of_free h.start_le h.free)

theorem of_mem_iff (h : FirstFree key taken start position) {keys : List String}
    (hsame : ∀ given, given ∈ keys ↔ given ∈ taken) : FirstFree key keys start position where
  start_le := h.start_le
  free := mt (hsame _).mp h.free
  before earlier hstart hlt := (hsame _).mpr (h.before earlier hstart hlt)

theorem drawn_eq (h : FirstFree key taken start position) (draws : Nat) :
    drawn key taken start draws =
      if draws ≤ position - start then .trying (start + draws)
      else .settled (key position) (position + 1) := by
  have hstart := h.start_le
  induction draws with
  | zero => rfl
  | succ draws ih =>
      rw [drawn, ih]
      rcases Nat.lt_trichotomy (start + draws) position with hbefore | hnow | hafter
      · have htaken := h.before _ (Nat.le_add_right start draws) hbefore
        rw [if_pos (by omega), if_pos (by omega), draw_trying_of_mem htaken, Nat.add_assoc]
      · rw [if_pos (by omega), if_neg (by omega), hnow, draw_trying_of_not_mem h.free]
      · rw [if_neg (by omega), if_neg (by omega)]
        rfl

theorem position_lt_of_listed {stem : String} {keys : List String}
    (h : FirstFree (listedKey stem keys) taken start position) :
    position < start + (keys.length + taken.length + 1) := by
  obtain ⟨other, hstart, hreach, hfree⟩ := (listed stem keys).exists_fresh taken start
  have hle := h.le_of_free hstart hfree
  simp only [listed] at hreach
  omega

end FirstFree

theorem firstFree_freshPosition (source : KeySource) (taken : List String) :
    FirstFree source.key taken source.position (source.freshPosition taken) where
  start_le := source.position_le_freshPosition taken
  free := source.key_freshPosition_not_mem taken
  before earlier hstart hlt := by
    obtain ⟨-, -, hbefore⟩ := List.find?_range'_eq_some.mp (source.find?_fresh taken)
    simpa using hbefore earlier hstart hlt

/-- From every position on, the sequence comes to a key outside of any finite list. -/
def NeverRunsOut (key : Nat → String) : Prop :=
  ∀ (taken : List String) (start : Nat), ∃ position, start ≤ position ∧ key position ∉ taken

def ofKeys (key : Nat → String) (position : Nat) (h : NeverRunsOut key) : KeySource where
  key := key
  position := position
  reach taken start := Nat.find (h taken start) + 1
  exists_fresh taken start :=
    ⟨Nat.find (h taken start), (Nat.find_spec (h taken start)).1, by omega,
      (Nat.find_spec (h taken start)).2⟩

theorem exists_source_iff (key : Nat → String) (position : Nat) :
    (∃ source : KeySource, source.key = key ∧ source.position = position) ↔
      NeverRunsOut key := by
  constructor
  · rintro ⟨source, rfl, -⟩ taken start
    obtain ⟨found, hstart, -, hfree⟩ := source.exists_fresh taken start
    exact ⟨found, hstart, hfree⟩
  · intro h
    exact ⟨ofKeys key position h, rfl, rfl⟩

theorem neverRunsOut_listedKey (stem : String) (keys : List String) :
    NeverRunsOut (listedKey stem keys) :=
  (exists_source_iff _ 0).mp ⟨listed stem keys, rfl, rfl⟩

end KeySource

namespace Correlation.Table

open KeySource (FirstFree NeverRunsOut drawn listedKey)

def correlationKeys (table : Table) : List String :=
  (table.forward.entries.map Prod.snd).eraseDups

theorem mem_correlationKeys_iff {table : Table} {key : String} :
    key ∈ table.correlationKeys ↔
      ∃ nativeKey, table.forward.get? nativeKey = some key := by
  simp [correlationKeys, Dict.get?_eq_some_iff]

theorem LoadedFrom.correlationKeys_perm {table : Table} {loaded : List (String × String)}
    (h : table.LoadedFrom loaded) : table.correlationKeys.Perm table.reverse.keys := by
  refine (List.perm_ext_iff_of_nodup (Dict.nodup_eraseDups _) table.reverse.nodup_keys).mpr ?_
  intro key
  change key ∈ table.correlationKeys ↔ key ∈ table.reverse.keys
  rw [mem_correlationKeys_iff, ← Dict.contains_iff, Dict.contains, Option.isSome_iff_exists]
  constructor
  · rintro ⟨nativeKey, hforward⟩
    exact h.exists_reverse hforward
  · rintro ⟨nativeKey, hreverse⟩
    exact ⟨nativeKey, h.forward_of_reverse hreverse⟩

/--
Whatever has been done to a table, and whatever source it draws from, the drawing of a
key for a new native key ends: at the first key, from where the source stands, that is not
a correlation key of the table.  That key is given, and the source stands right behind it.
A native key that has a key keeps it, and nothing is drawn.  Sources have all the sequences
that from every position on come to a key outside of any finite list.  From one of listed
keys and then numbered ones no more keys are drawn than are listed, than the table
has correlation keys, and one.
-/
theorem drawing_ends_at_first_free_key (first source : KeySource) (changes : List Change) :
    let table := { (empty first).afterChanges changes with source }
    (∀ nativeKey key, table.forward.get? nativeKey = some key →
      table.keyOf nativeKey = (key, table)) ∧
    (∀ nativeKey, table.forward.get? nativeKey = none → ∃ position,
      FirstFree source.key table.correlationKeys source.position position ∧
      (∀ draws, drawn source.key table.reverse.keys source.position draws =
        if draws ≤ position - source.position then .trying (source.position + draws)
        else .settled (source.key position) (position + 1)) ∧
      table.keyOf nativeKey = (source.key position,
        { table with source := source.after position }.link nativeKey (source.key position)) ∧
      ∀ stem keys, source.key = listedKey stem keys →
        position + 1 - source.position ≤ keys.length + table.correlationKeys.length + 1) ∧
    (∀ key position, (∃ source : KeySource, source.key = key ∧ source.position = position) ↔
      NeverRunsOut key) ∧
    ∀ stem keys, NeverRunsOut (listedKey stem keys) := by
  intro table
  have hloaded : table.LoadedFrom (lastLoaded changes) :=
    ((loadedFrom_empty first).afterChanges changes).of_source source
  have hkeys := hloaded.correlationKeys_perm
  refine ⟨fun _ _ => keyOf_of_get?, fun nativeKey hnew => ?_, KeySource.exists_source_iff,
    KeySource.neverRunsOut_listedKey⟩
  have hfirst := source.firstFree_freshPosition table.reverse.keys
  have hfree := hfirst.of_mem_iff fun _ => hkeys.mem_iff
  refine ⟨_, hfree, hfirst.drawn_eq, keyOf_of_get?_eq_none hnew, fun stem keys hlisted => ?_⟩
  rw [hlisted] at hfree
  have hlt := hfree.position_lt_of_listed
  omega

/-- The listed key is stored already and comes again as the first numbered one.  One key is
listed, the table has one, and three are drawn. -/
theorem stored_key_is_drawn_twice :
    let source := KeySource.listed "k" ["k1"]
    let table := { (empty source).afterChanges [.replace [("a", "k1")]] with source }
    table.correlationKeys = ["k1"] ∧ table.keyOf "a" = ("k1", table) ∧
      drawn source.key table.reverse.keys 0 2 = .trying 2 ∧
      drawn source.key table.reverse.keys 0 3 = .settled "k2" 3 ∧
      (table.keyOf "b").1 = "k2" ∧ (table.keyOf "b").2.source.position = 3 := by
  intro source table
  have hlisting : listing [("a", "k1")] = [("a", "k1")] :=
    List.mergeSort_of_pairwise (by decide +kernel)
  have hforward : table.forward = Dict.ofList [("a", "k1")] := by
    simp only [table, afterChanges, List.foldl_cons, List.foldl_nil, change, replace, hlisting]
    rfl
  have hkeys : table.correlationKeys = ["k1"] := by
    rw [correlationKeys, hforward]
    decide
  obtain ⟨hold, hnew, -⟩ :=
    drawing_ends_at_first_free_key source source [.replace [("a", "k1")]]
  obtain ⟨position, hfree, hdrawn, hgiven, -⟩ := hnew "b" (by rw [hforward]; decide)
  have hsecond : FirstFree source.key table.correlationKeys source.position 2 := by
    rw [hkeys]
    exact ⟨by decide, by decide +kernel, by decide +kernel⟩
  obtain rfl := hfree.unique hsecond
  have hkey : source.key 2 = "k2" := by decide +kernel
  refine ⟨hkeys, hold "a" "k1" (by rw [hforward]; decide), hdrawn 2, (hdrawn 3).trans ?_, ?_, ?_⟩
  · exact congrArg (KeySource.Drawing.settled · 3) hkey
  · rw [hgiven]
    exact hkey
  · rw [hgiven]
    rfl

end Correlation.Table

end FareGateway
