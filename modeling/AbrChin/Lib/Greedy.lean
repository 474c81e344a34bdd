import Mathlib.Data.List.Basic

/-!
# Greedy selection

Candidates are tried one after the other, and what a rule allows is picked, until a number of picks
is reached.  Once a candidate is not allowed it never is again, because the rule only becomes
stricter with more picks.  At the end nothing can therefore be added: acceptance is never revised,
and neither is rejection.
-/

namespace Lib

variable {α : Type*} (allowed : List α → α → Prop) [∀ picked, DecidablePred (allowed picked)]

/-- The picks after the candidates, up to `stop` of them. -/
def pick (stop : ℕ) : List α → List α → List α
  | picked, [] => picked
  | picked, candidate :: rest =>
      if stop ≤ picked.length then picked
      else pick stop (if allowed picked candidate then picked ++ [candidate] else picked) rest

variable {allowed} {stop : ℕ} {picked candidates : List α} {candidate : α}

/-- What holds of the first picks, and is kept by a pick that is allowed, holds of all picks. -/
theorem pick_induction {Holds : List α → Prop} (hstart : Holds picked)
    (hstep : ∀ picked, ∀ candidate ∈ candidates, Holds picked → picked.length < stop →
      allowed picked candidate → Holds (picked ++ [candidate])) :
    Holds (pick allowed stop picked candidates) := by
  induction candidates generalizing picked with
  | nil => exact hstart
  | cons candidate rest ih =>
      rw [pick]
      by_cases hstop : stop ≤ picked.length
      · rw [if_pos hstop]
        exact hstart
      · rw [if_neg hstop]
        refine ih ?_ fun picked other hother =>
          hstep picked other (List.mem_cons_of_mem _ hother)
        by_cases hallowed : allowed picked candidate
        · rw [if_pos hallowed]
          exact hstep picked candidate List.mem_cons_self hstart (Nat.not_le.1 hstop) hallowed
        · rw [if_neg hallowed]
          exact hstart

/-- The rule only becomes stricter, and forbids what is picked. -/
structure Stricter (allowed : List α → α → Prop) : Prop where
  mono : ∀ {picked candidate} (other), ¬ allowed picked candidate →
    ¬ allowed (picked ++ [other]) candidate
  once : ∀ picked candidate, ¬ allowed (picked ++ [candidate]) candidate

theorem Stricter.not_allowed_pick (h : Stricter allowed) (hnot : ¬ allowed picked candidate) :
    ¬ allowed (pick allowed stop picked candidates) candidate :=
  @pick_induction _ allowed _ stop picked candidates (fun picked => ¬ allowed picked candidate) hnot
    fun _ other _ hnot _ _ => h.mono other hnot

/-- **Nothing can be added** when fewer than `stop` are picked. -/
theorem Stricter.pick_maximal (h : Stricter allowed)
    (hlength : (pick allowed stop picked candidates).length < stop) :
    ∀ candidate ∈ candidates, ¬ allowed (pick allowed stop picked candidates) candidate := by
  induction candidates generalizing picked with
  | nil => exact fun _ hcandidate => nomatch hcandidate
  | cons candidate rest ih =>
      rw [pick] at hlength ⊢
      by_cases hstop : stop ≤ picked.length
      · rw [if_pos hstop] at hlength
        omega
      · rw [if_neg hstop] at hlength ⊢
        intro other hother
        rcases List.mem_cons.1 hother with rfl | hother
        · -- it was picked, or it was not allowed when it was tried
          refine h.not_allowed_pick ?_
          by_cases hallowed : allowed picked other
          · rw [if_pos hallowed]
            exact h.once picked other
          · rw [if_neg hallowed]
            exact hallowed
        · exact ih hlength other hother

end Lib
