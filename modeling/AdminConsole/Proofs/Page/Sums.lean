import AdminConsole.Overflow
import AdminConsole.Proofs.List.Failure
import Mathlib.Data.List.Induction
import Mathlib.Data.List.Infix

/-! # Sums in words

A word is what is left of the number that it stands for, so a sum in words is
what is left of the exact sum, however often it was cut on the way
(`Overflow.sum_eq_ok_iff`).  It is missing only if the program stops at sums that
do not fit, and then one on the way to it does not (`Overflow.sum_eq_error_iff`).
-/
namespace AdminConsole

namespace Word

variable {α : Type} [Add α] [Word α] {ws : List α} {w : α} {n : Int}

/-- The number fits into a word. -/
def Fits (α : Type) [Add α] [Word α] (n : Int) : Prop := number (cut n : α) = n

instance (n : Int) : Decidable (Fits α n) := decidable_of_iff (number (cut n : α) = n) Iff.rfl

/-- The exact sum of some words. -/
def total (ws : List α) : Int := ws.foldr (fun w sum => number w + sum) 0

/-- The exact sum fits into a word, and so does every one on the way to it. -/
def SumsFit (ws : List α) : Prop := ∀ part, part <+: ws → Fits α (total part)

instance (ws : List α) : Decidable (SumsFit ws) :=
  decidable_of_iff (∀ part ∈ ws.inits, Fits α (total part)) (by simp only [List.mem_inits, SumsFit])

theorem total_cons (w : α) (ws : List α) : total (w :: ws) = number w + total ws := rfl

theorem total_append (ws vs : List α) : total (ws ++ vs) = total ws + total vs := by
  induction ws with
  | nil => exact (Int.zero_add _).symm
  | cons w ws ih => rw [List.cons_append, total_cons, total_cons, ih, Int.add_assoc]

theorem total_concat (ws : List α) (w : α) : total (ws ++ [w]) = total ws + number w := by
  rw [total_append]
  exact congrArg (total ws + ·) (Int.add_zero (number w))

theorem SumsFit.fits (h : SumsFit ws) : Fits α (total ws) := h ws (List.prefix_refl ws)

theorem sumsFit_concat_iff : SumsFit (ws ++ [w]) ↔ SumsFit ws ∧ Fits α (total (ws ++ [w])) := by
  constructor
  · exact fun h => ⟨fun part hpart => h part (hpart.trans (List.prefix_append ws [w])), h.fits⟩
  · rintro ⟨hbefore, hafter⟩ part hpart
    rcases List.prefix_concat_iff.mp hpart with rfl | hpart
    · exact hafter
    · exact hbefore part hpart

/-- To add a word to what is left of a sum leaves what is left of the next one. -/
theorem cut_total_add (ws : List α) (w : α) : cut (total ws) + w = cut (total (ws ++ [w])) := by
  rw [total_concat, cut_add, cut_number]

end Word

namespace Overflow

open Word

variable {α : Type} [Add α] [Word α] {o : Overflow} {ws : List α} {w : α} {abort : Abort}

theorem keep_cut_of_fits {n : Int} (h : o = .stops → Fits α n) :
    o.keep n (cut n : α) = .ok (cut n) := by
  unfold keep
  rw [if_neg fun hne => hne.2 (h hne.1)]

theorem keep_cut_of_not_fits {n : Int} (h : ¬ Fits α n) :
    keep .stops n (cut n : α) = .error .sumOutOfRange := by
  unfold keep
  rw [if_pos ⟨rfl, h⟩]

theorem sum_concat (o : Overflow) (ws : List α) (w : α) :
    o.sum (ws ++ [w]) = o.sum ws >>= fun sum => o.add sum w := by
  unfold sum
  rw [List.foldlM_append]
  simp only [List.foldlM_cons, List.foldlM_nil, bind_pure]

/-- One more word is added to what is left of a sum that fits, if the program minds. -/
theorem add_cut_total (h : o = .stops → Fits α (total ws)) (w : α) :
    o.add (cut (total ws)) w = o.keep (total (ws ++ [w])) (cut (total (ws ++ [w]))) := by
  unfold add
  rw [cut_total_add]
  cases o with
  | wraps => rfl
  | stops =>
    have hnumber : number (cut (total ws) : α) = total ws := h rfl
    rw [hnumber, total_concat]

theorem sum_of_fits (h : o = .stops → SumsFit ws) : o.sum ws = .ok (cut (total ws)) := by
  induction ws using List.reverseRecOn with
  | nil => rfl
  | append_singleton ws w ih =>
    have hbefore : o = .stops → SumsFit ws := fun ho => (sumsFit_concat_iff.mp (h ho)).1
    rw [sum_concat, ih hbefore]
    show o.add (cut (total ws)) w = _
    rw [add_cut_total fun ho => (hbefore ho).fits]
    exact keep_cut_of_fits fun ho => (h ho).fits

theorem sum_of_not_fit (h : ¬ SumsFit ws) : stops.sum ws = .error .sumOutOfRange := by
  induction ws using List.reverseRecOn with
  | nil =>
    refine absurd (fun part hpart => ?_) h
    rw [List.prefix_nil.mp hpart]
    exact number_zero
  | append_singleton ws w ih =>
    rw [sum_concat]
    by_cases hbefore : SumsFit ws
    · have hlast : ¬ Fits α (total (ws ++ [w])) := fun hfits =>
        h (sumsFit_concat_iff.mpr ⟨hbefore, hfits⟩)
      rw [sum_of_fits fun _ => hbefore]
      show stops.add (cut (total ws)) w = _
      rw [add_cut_total fun _ => hbefore.fits]
      exact keep_cut_of_not_fits hlast
    · rw [ih hbefore]
      rfl

/-- **A sum is there unless one on the way does not fit and stops the program, and then it is what
is left of the exact sum.** -/
theorem sum_eq_ok_iff :
    o.sum ws = .ok w ↔ w = cut (total ws) ∧ (o = .stops → SumsFit ws) := by
  by_cases h : o = .stops → SumsFit ws
  · rw [sum_of_fits h, Except.ok.injEq, and_iff_left h, eq_comm]
  · obtain ⟨rfl, hfit⟩ := Classical.not_imp.mp h
    rw [sum_of_not_fit hfit]
    exact iff_of_false (fun hok => by cases hok) fun hok => h hok.2

theorem sum_eq_error_iff :
    o.sum ws = .error abort ↔ abort = .sumOutOfRange ∧ o = .stops ∧ ¬ SumsFit ws := by
  by_cases h : o = .stops → SumsFit ws
  · rw [sum_of_fits h]
    exact iff_of_false (fun herror => by cases herror) fun herror => herror.2.2 (h herror.2.1)
  · obtain ⟨rfl, hfit⟩ := Classical.not_imp.mp h
    rw [sum_of_not_fit hfit, Except.error.injEq, eq_comm, and_iff_left ⟨rfl, hfit⟩]

end Overflow

/-! ## What stops at sums -/

/-- The computation is stopped by nothing but a sum that does not fit. -/
def StopsAtSums {α : Type} (x : Except Abort α) : Prop :=
  ∀ abort, x = .error abort → abort = .sumOutOfRange

namespace StopsAtSums

variable {α β : Type} {x : Except Abort α}

theorem ok (a : α) : StopsAtSums (.ok a) := fun _ h => by cases h

theorem keep [Add α] [Word α] (o : Overflow) (n : Int) (w : α) : StopsAtSums (o.keep n w) := by
  intro abort h
  unfold Overflow.keep at h
  split at h
  · exact (Except.error.inj h).symm
  · cases h

theorem sum [Add α] [Word α] (o : Overflow) (ws : List α) : StopsAtSums (o.sum ws) :=
  fun _ h => (Overflow.sum_eq_error_iff.mp h).1

theorem map (h : StopsAtSums x) (f : α → β) : StopsAtSums (x.map f) :=
  fun abort herror => h abort (error_of_map herror)

theorem bind {f : α → Except Abort β} (h : StopsAtSums x) (hf : ∀ a, StopsAtSums (f a)) :
    StopsAtSums (x >>= f) := by
  intro abort herror
  rcases error_of_bind herror with hx | ⟨a, -, ha⟩
  · exact h abort hx
  · exact hf a abort ha

theorem mapM {f : α → Except Abort β} (hf : ∀ a, StopsAtSums (f a)) (l : List α) :
    StopsAtSums (l.mapM f) := by
  intro abort herror
  obtain ⟨a, -, ha⟩ := exists_error_of_mapM herror
  exact hf a abort ha

theorem option_mapM {f : α → Except Abort β} (hf : ∀ a, StopsAtSums (f a)) (a : Option α) :
    StopsAtSums (a.mapM f) := by
  cases a with
  | none => exact ok none
  | some a => exact (hf a).map some

end StopsAtSums

end AdminConsole
