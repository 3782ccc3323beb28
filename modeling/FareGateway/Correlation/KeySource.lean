/-!
# Sources of fresh keys

A source hands out the keys of a fixed sequence, one after the other, and may
repeat itself.  What it promises is that from every position on, some key that
avoids a given list comes within reach.  The search for the first such key
therefore ends.
-/

namespace FareGateway

structure KeySource where
  key : Nat → String
  position : Nat := 0
  /-- How many keys from a position on have to be tried to avoid a list. -/
  reach : List String → Nat → Nat
  exists_fresh : ∀ used start,
    ∃ n, start ≤ n ∧ n < start + reach used start ∧ key n ∉ used

namespace KeySource

def freshPosition (source : KeySource) (used : List String) : Nat :=
  ((List.range' source.position (source.reach used source.position)).find?
    fun n => decide (source.key n ∉ used)).getD source.position

def after (source : KeySource) (position : Nat) : KeySource :=
  { source with position := position + 1 }

theorem find?_fresh (source : KeySource) (used : List String) :
    (List.range' source.position (source.reach used source.position)).find?
      (fun n => decide (source.key n ∉ used)) = some (source.freshPosition used) := by
  obtain ⟨n, hstart, hreach, hfresh⟩ := source.exists_fresh used source.position
  have hsome : ((List.range' source.position (source.reach used source.position)).find?
      fun n => decide (source.key n ∉ used)).isSome := by
    rw [List.find?_isSome]
    exact ⟨n, by simp [List.mem_range'_1, hstart, hreach], by simpa using hfresh⟩
  obtain ⟨found, hfound⟩ := Option.isSome_iff_exists.mp hsome
  rw [freshPosition, hfound, Option.getD_some]

theorem key_freshPosition_not_mem (source : KeySource) (used : List String) :
    source.key (source.freshPosition used) ∉ used := by
  have h := List.find?_some (source.find?_fresh used)
  exact of_decide_eq_true h

theorem position_le_freshPosition (source : KeySource) (used : List String) :
    source.position ≤ source.freshPosition used :=
  (List.mem_range'_1.mp (List.mem_of_find?_eq_some (source.find?_fresh used))).1

/-! ## Numbered keys -/

def numberedKey (stem : String) (n : Nat) : String :=
  String.ofList (stem.toList ++ Nat.toDigits 10 n)

theorem numberedKey_injective {stem : String} {m n : Nat}
    (h : numberedKey stem m = numberedKey stem n) : m = n := by
  have hdigits : Nat.toDigits 10 m = Nat.toDigits 10 n := by
    have := congrArg String.toList h
    simpa [numberedKey] using this
  have hvalue := congrArg (fun ds => Nat.ofDigitChars 10 ds 0) hdigits
  simpa [Nat.ofDigitChars_toDigits] using hvalue

theorem exists_numberedKey_not_mem (stem : String) (used : List String) (start : Nat) :
    ∃ n, start ≤ n ∧ n < start + (used.length + 1) ∧ numberedKey stem n ∉ used := by
  refine Classical.byContradiction fun hnone => ?_
  have hall : ∀ n ∈ List.range' start (used.length + 1), numberedKey stem n ∈ used := by
    intro n hn
    rw [List.mem_range'_1] at hn
    exact Classical.byContradiction fun hfresh => hnone ⟨n, hn.1, hn.2, hfresh⟩
  have hnodup :
      ((List.range' start (used.length + 1)).map (numberedKey stem)).Nodup := by
    refine List.Pairwise.map _ (fun m n hne heq => ?_)
      (List.nodup_range' : (List.range' start (used.length + 1)).Nodup)
    exact hne (numberedKey_injective heq)
  have hlength := hnodup.length_le_of_subset fun key hkey => by
    obtain ⟨n, hn, rfl⟩ := List.mem_map.mp hkey
    exact hall n hn
  rw [List.length_map, List.length_range'] at hlength
  omega

/-- The listed keys first, and then numbered ones. -/
def listedKey (stem : String) (listed : List String) (n : Nat) : String :=
  listed[n]?.getD (numberedKey stem n)

def listed (stem : String) (keys : List String) : KeySource where
  key := listedKey stem keys
  reach used start := keys.length - start + (used.length + 1)
  exists_fresh used start := by
    obtain ⟨n, hstart, hreach, hfresh⟩ :=
      exists_numberedKey_not_mem stem used (max start keys.length)
    refine ⟨n, by omega, by omega, ?_⟩
    have : keys[n]? = none := List.getElem?_eq_none (by omega)
    simpa [listedKey, this] using hfresh

def numbered (stem : String) : KeySource := listed stem []

end KeySource

end FareGateway
