/-!
# Pieces between separators

Cutting a list at the elements that satisfy `p` gives the pieces between them, empty ones included:
one more than there are separators. No piece holds a separator (`isFree_of_mem_splitOnP`).
-/

set_option autoImplicit false

namespace ConfinedShell.Text

/-- A piece without separators. -/
def IsFree (p : Char → Bool) (piece : List Char) : Prop :=
  ∀ c ∈ piece, p c = false

/-- One more character that is no separator keeps the first piece free. -/
theorem isFree_of_mem_modifyHead {p : Char → Bool} {c : Char} {pieces : List (List Char)}
    (hc : p c = false) (hpieces : ∀ piece ∈ pieces, IsFree p piece) :
    ∀ piece ∈ pieces.modifyHead (c :: ·), IsFree p piece := by
  cases pieces with
  | nil => exact hpieces
  | cons first others =>
    intro piece hpiece d hd
    cases hpiece with
    | head =>
      cases hd with
      | head => exact hc
      | tail _ hd => exact hpieces first List.mem_cons_self d hd
    | tail _ hpiece => exact hpieces piece (List.mem_cons_of_mem _ hpiece) d hd

/-- A piece of a list cut at `p` is free. -/
theorem isFree_of_mem_splitOnP {p : Char → Bool} {cs : List Char} :
    ∀ piece ∈ cs.splitOnP p, IsFree p piece := by
  induction cs with
  | nil =>
    intro piece hpiece c hc
    rw [List.splitOnP_nil, List.mem_singleton] at hpiece
    exact absurd (hpiece ▸ hc) List.not_mem_nil
  | cons d ds ih =>
    rw [List.splitOnP_cons_eq_if_modifyHead]
    split
    · intro piece hpiece c hc
      cases hpiece with
      | head => cases hc
      | tail _ hpiece => exact ih piece hpiece c hc
    · next hd => exact isFree_of_mem_modifyHead (by simpa using hd) ih

end ConfinedShell.Text
