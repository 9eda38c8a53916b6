import PageWatch.Proofs.Clock.Watching
import PageWatch.Wait.Basic

/-!
# Rows of waits

Awaiting several conditions peels off the last one and makes its wait the sequel of the
wait for the others.  What comes out is the row of waits from the first condition to the
last, so the first condition is the first to be checked.
-/

namespace PageWatch

variable {χ κ β γ τ σ ω : Type}

namespace Sequel

/-- A row of waits, one for each condition, and what follows the last. -/
def row (interval : Span) (last : Sequel χ κ) (conditions : List χ) : Sequel χ κ :=
  conditions.foldr (fun condition sequel => .wait condition interval sequel) last

theorem row_concat (interval : Span) (last : Sequel χ κ) (conditions : List χ) (final : χ) :
    row interval last (conditions ++ [final]) =
      row interval (.wait final interval last) conditions := by
  simp [row]

/-- The callback at the end of what follows a condition. -/
def final : Sequel χ κ → κ
  | .callback value => value
  | .wait _ _ sequel => sequel.final

@[simp] theorem final_row (interval : Span) (last : Sequel χ κ) (conditions : List χ) :
    (row interval last conditions).final = last.final := by
  induction conditions with
  | nil => rfl
  | cons condition conditions ih => exact ih

end Sequel

namespace Waiter

variable (host : Wait.Host χ (Sequel χ κ) τ σ)

theorem awaitReversed_eq (waiter : Waiter χ κ) (conditions : List χ) :
    waiter.awaitReversed host conditions =
      (Sequel.row waiter.interval waiter.sequel conditions.reverse).run host := by
  induction conditions generalizing waiter with
  | nil => rfl
  | cons last previous ih =>
      cases previous with
      | nil => rfl
      | cons next others =>
          rw [awaitReversed, ih, List.reverse_cons (a := last), Sequel.row_concat]
          rfl

/-- Awaiting conditions is going through the row of their waits, from the first to the
last. -/
theorem awaitAll_eq (waiter : Waiter χ κ) (conditions : List χ) :
    waiter.awaitAll host conditions =
      (Sequel.row waiter.interval waiter.sequel conditions).run host := by
  rw [awaitAll, awaitReversed_eq, List.reverse_reverse]

end Waiter

/-! ## Waits do not move the clock -/

namespace Wait

/-- The surroundings of a wait never move the clock. -/
structure Host.Still (host : Host χ β τ σ) : Prop where
  check : ∀ condition, (host.check condition).Still
  report : ∀ notice, (host.report notice).Still

variable {host : Host χ β τ σ}

theorem still_start (still : host.Still) (interval : Span) (callback : β)
    {fire : Routine τ σ (Progress γ)} (fires : fire.Still) (condition : χ) :
    (start host interval callback fire condition).Still := by
  refine (still.check condition).bind fun checked => ?_
  obtain ⟨answer, condition⟩ := checked
  rcases answer with error | _ | _
  · exact (still.report _).bind fun _ => trivial
  · exact (still.report _).bind fun _ _ => trivial
  · exact fires

theorem still_tick (still : host.Still) {fire : β → Routine τ σ (Progress γ)}
    (fires : ∀ callback, (fire callback).Still) (wait : Wait χ β) :
    (tick host fire wait).Still := by
  obtain ⟨condition, callback, slot⟩ := wait
  have cancels : (Routine.cancelSlot slot : Routine τ σ Unit).Still := by
    cases slot <;> trivial
  cases callback with
  | none => trivial
  | some callback =>
      refine (still.check condition).bind fun checked => ?_
      obtain ⟨answer, condition⟩ := checked
      rcases answer with error | _ | _
      · exact cancels.bind fun _ => (still.report _).bind fun _ => trivial
      · trivial
      · exact cancels.bind fun _ => (still.report _).bind fun _ =>
          (fires callback).bind fun _ => trivial

end Wait

theorem Sequel.still_run {host : Wait.Host χ (Sequel χ κ) τ σ} (still : host.Still)
    (sequel : Sequel χ κ) : (sequel.run host).Still := by
  induction sequel with
  | callback value => trivial
  | wait condition interval sequel ih =>
      exact Wait.still_start still interval sequel ih condition

end PageWatch
