import Literate.FileTree
import Mathlib.Data.List.Sort

/-! The order of locations. It is that of dictionaries twice over, by names and in these by
characters, so that a sorted list of locations is determined by what is in it. -/

namespace Literate

/-- Lists in the order of the first place where they differ, an end before everything else. -/
def lexPrecedes {α : Type} [DecidableEq α] (before : α → α → Bool) : (first second : List α) → Bool
  | [], _ => true
  | _ :: _, [] => false
  | a :: first, b :: second => if a = b then lexPrecedes before first second else before a b

/-- Of two different elements exactly one is before the other. -/
structure Orders {α : Type} (before : α → α → Bool) : Prop where
  total : ∀ {a b}, a ≠ b → before a b = true ∨ before b a = true
  antisymm : ∀ {a b}, before a b = true → before b a = true → a = b
  trans : ∀ {a b c}, before a b = true → before b c = true → before a c = true

section

variable {α : Type} [DecidableEq α] {before : α → α → Bool}

theorem lexPrecedes_refl (list : List α) : lexPrecedes before list list = true := by
  induction list with
  | nil => rfl
  | cons a list ih => rw [lexPrecedes, if_pos rfl, ih]

theorem Orders.lex (orders : Orders before) : Orders (lexPrecedes before) where
  total {first second} differ := by
    induction first generalizing second with
    | nil => exact .inl rfl
    | cons a first ih =>
      cases second with
      | nil => exact .inr rfl
      | cons b second =>
        by_cases same : a = b
        · subst same
          simpa [lexPrecedes] using ih fun equal => differ (congrArg _ equal)
        · simpa [lexPrecedes, same, Ne.symm same] using orders.total same
  antisymm {first second} forth back := by
    induction first generalizing second with
    | nil =>
      cases second with
      | nil => rfl
      | cons b second => cases back
    | cons a first ih =>
      cases second with
      | nil => cases forth
      | cons b second =>
        by_cases same : a = b
        · subst same
          rw [ih (by simpa [lexPrecedes] using forth) (by simpa [lexPrecedes] using back)]
        · exact absurd (orders.antisymm (by simpa [lexPrecedes, same] using forth)
            (by simpa [lexPrecedes, Ne.symm same] using back)) same
  trans {first second third} one two := by
    induction first generalizing second third with
    | nil => rfl
    | cons a first ih =>
      cases second with
      | nil => cases one
      | cons b second =>
        cases third with
        | nil => cases two
        | cons c third =>
          by_cases left : a = b
          · subst left
            by_cases right : a = c
            · subst right
              have below := ih (by simpa [lexPrecedes] using one) (by simpa [lexPrecedes] using two)
              simpa [lexPrecedes] using below
            · simpa [lexPrecedes, right] using two
          · have first : before a b = true := by simpa [lexPrecedes, left] using one
            by_cases right : b = c
            · subst right
              simpa [lexPrecedes, left] using first
            · have second : before b c = true := by simpa [lexPrecedes, right] using two
              have differ : a ≠ c := by
                rintro rfl
                exact left (orders.antisymm first second)
              simpa [lexPrecedes, differ] using orders.trans first second

end

theorem Text.orders_precedes : Orders Text.precedes := by
  have same : Text.precedes = lexPrecedes fun c d => decide (c.toNat < d.toNat) := by
    funext first second
    induction first generalizing second with
    | nil => rfl
    | cons c first ih =>
      cases second with
      | nil => rfl
      | cons d second => rw [precedes, lexPrecedes, ih]
  rw [same]
  refine Orders.lex ⟨?_, ?_, ?_⟩
  · intro c d differ
    have codes : c.toNat ≠ d.toNat := fun equal => differ (Char.toNat_inj.mp equal)
    simpa using Nat.lt_or_gt_of_ne codes
  · intro c d forth back
    simp only [decide_eq_true_eq] at forth back
    omega
  · intro c d e forth back
    simp only [decide_eq_true_eq] at forth back ⊢
    omega

namespace Location

theorem precedes_eq : Location.precedes = lexPrecedes Text.precedes := by
  funext first second
  induction first generalizing second with
  | nil => rfl
  | cons name first ih =>
    cases second with
    | nil => rfl
    | cons other second => rw [precedes, lexPrecedes, ih]

theorem orders_precedes : Orders precedes := precedes_eq ▸ Text.orders_precedes.lex

instance : Std.Total fun first second : Location => precedes first second = true where
  total first second := by
    by_cases same : first = second
    · left
      rw [same, precedes_eq, lexPrecedes_refl]
    · exact orders_precedes.total same

instance : IsTrans Location fun first second => precedes first second = true where
  trans _ _ _ := orders_precedes.trans

instance : Std.Antisymm fun first second : Location => precedes first second = true where
  antisymm _ _ := orders_precedes.antisymm

theorem pairwise_mergeSort (locations : List Location) :
    (locations.mergeSort precedes).Pairwise fun first second => precedes first second = true := by
  simpa using List.pairwise_mergeSort' (fun first second : Location => precedes first second = true) locations

/-- Sorting forgets the order in which locations were found. -/
theorem mergeSort_eq_of_perm {first second : List Location} (perm : first.Perm second) :
    first.mergeSort precedes = second.mergeSort precedes := by
  apply List.Perm.eq_of_pairwise' (pairwise_mergeSort first) (pairwise_mergeSort second)
  exact ((List.mergeSort_perm first _).trans perm).trans (List.mergeSort_perm second _).symm

/-- Insertion can be evaluated where merging cannot: it is structurally recursive. -/
theorem mergeSort_eq_insertionSort (locations : List Location) :
    locations.mergeSort precedes = locations.insertionSort fun first second => precedes first second = true := by
  simpa using List.mergeSort_eq_insertionSort (fun first second : Location => precedes first second = true) locations

end Location

end Literate
