/-
# `PlayFrame.Lib.Workers` — the jobs that are with workers

`work i` is the job that the worker `i` has.  `jobs` counts the jobs of a list of workers
as a multiset, so that what is handed to a worker and what it gives back can be compared
with what is elsewhere.
-/
import Mathlib.Algebra.Order.Group.Multiset
import Mathlib.Data.List.Nodup
import Mathlib.Logic.Function.Basic

namespace PlayFrame.Lib

variable {ι α : Type*}

/-- The jobs that the workers of a list have. -/
def jobs (work : ι → Option α) (workers : List ι) : Multiset α := workers.filterMap work

section
variable [DecidableEq ι] {work : ι → Option α} {workers : List ι} {i : ι} {a : Option α}

theorem jobs_update_of_not_mem (hi : i ∉ workers) :
    jobs (Function.update work i a) workers = jobs work workers := by
  have hcongr : workers.filterMap (Function.update work i a) = workers.filterMap work := by
    refine List.filterMap_congr (fun j hj => Function.update_of_ne ?_ ..)
    rintro rfl
    exact hi hj
  unfold jobs
  rw [hcongr]

/-- **Another job for a worker**: its old one is counted no more, and its new one is. -/
theorem jobs_update (hnodup : workers.Nodup) (hi : i ∈ workers) :
    jobs (Function.update work i a) workers + ((work i).toList : Multiset α) =
      jobs work workers + (a.toList : Multiset α) := by
  induction workers with
  | nil => cases hi
  | cons j workers ih =>
      have hcons : ∀ work : ι → Option α,
          jobs work (j :: workers) = ((work j).toList : Multiset α) + jobs work workers := by
        intro work
        unfold jobs
        rw [Multiset.coe_add, List.filterMap_cons]
        cases work j with
        | none => rfl
        | some b => rfl
      obtain ⟨hj, hnodup⟩ := List.nodup_cons.mp hnodup
      rw [hcons, hcons]
      rcases List.mem_cons.mp hi with rfl | hi
      · rw [Function.update_self, jobs_update_of_not_mem hj]
        rw [add_assoc, add_comm, add_comm (jobs work workers)]
      · have hne : j ≠ i := by
          rintro rfl
          exact hj hi
        rw [Function.update_of_ne hne, add_assoc, add_assoc, ih hnodup hi]

theorem jobs_update_le (hnodup : workers.Nodup) :
    jobs (Function.update work i a) workers ≤ jobs work workers + (a.toList : Multiset α) := by
  by_cases hi : i ∈ workers
  · rw [← jobs_update hnodup hi]
    exact Multiset.le_add_right ..
  · rw [jobs_update_of_not_mem hi]
    exact Multiset.le_add_right ..

theorem jobs_take {b : α} (hnodup : workers.Nodup) (hi : i ∈ workers) (hb : work i = some b) :
    jobs work workers = jobs (Function.update work i none) workers + {b} := by
  have h : jobs _ workers + _ = jobs work workers + ((none : Option α).toList : Multiset α) :=
    jobs_update hnodup hi
  rw [hb] at h
  exact (h.trans (add_zero _)).symm

end

theorem mem_jobs {work : ι → Option α} {workers : List ι} {i : ι} {a : α} (hi : i ∈ workers)
    (ha : work i = some a) : a ∈ jobs work workers :=
  List.mem_filterMap.mpr ⟨i, hi, ha⟩

theorem jobs_none (workers : List ι) : jobs (fun _ => (none : Option α)) workers = 0 := by
  unfold jobs
  rw [List.filterMap_none]
  rfl

end PlayFrame.Lib
