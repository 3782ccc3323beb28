/-!
# Cutting text at a mark
-/

namespace FareGateway

def cut (mark : Char) : List Char → Option (List Char × List Char)
  | [] => none
  | c :: rest =>
      if c = mark then some ([], rest)
      else (cut mark rest).map fun (before, after) => (c :: before, after)

theorem cut_eq_some_iff {mark : Char} {text before after : List Char} :
    cut mark text = some (before, after) ↔
      mark ∉ before ∧ text = before ++ mark :: after := by
  induction text generalizing before with
  | nil => simp [cut]
  | cons c rest ih =>
      by_cases hc : c = mark
      · cases before with
        | nil => simp [cut, hc]
        | cons d before =>
            simp only [cut, hc, if_true, List.mem_cons, List.cons_append]
            grind
      · cases before with
        | nil => simp [cut, hc]
        | cons d before =>
            simp only [cut, hc, if_false, Option.map_eq_some_iff, Prod.exists]
            grind

/-- What follows a beginning that the text must have. -/
def afterBeginning? : List Char → List Char → Option (List Char)
  | [], text => some text
  | c :: beginning, d :: text =>
      if c = d then afterBeginning? beginning text else none
  | _ :: _, [] => none

theorem afterBeginning?_eq_some_iff {beginning text rest : List Char} :
    afterBeginning? beginning text = some rest ↔ text = beginning ++ rest := by
  induction beginning generalizing text with
  | nil => simp [afterBeginning?]
  | cons c beginning ih =>
      cases text with
      | nil => simp [afterBeginning?]
      | cons d text =>
          by_cases hc : c = d
          · simp [afterBeginning?, hc, ih]
          · simp [afterBeginning?, hc, Ne.symm hc]

end FareGateway
