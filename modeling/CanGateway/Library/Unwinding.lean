import Mathlib.Data.List.Basic
import Mathlib.Data.List.Nodup
import Mathlib.Tactic.Common

/-!
# Resources released in reverse

Acquisitions and releases act on a stack: what was acquired last is released first.  `attempt`
acquires one resource after the other and takes everything back after a failure.
-/

namespace Unwinding

variable {ρ : Type*}

inductive Event (ρ : Type*) where
  | acquired (resource : ρ)
  | released (resource : ρ)
  deriving DecidableEq, Repr

def Event.resource : Event ρ → ρ
  | acquired resource | released resource => resource

/-- The resources an acquisition or a release leaves, last acquired first, if it is in order. -/
def step [DecidableEq ρ] (held : List ρ) : Event ρ → Option (List ρ)
  | .acquired resource => if resource ∈ held then none else some (resource :: held)
  | .released resource => if held.head? = some resource then some held.tail else none

def replay [DecidableEq ρ] (events : List (Event ρ)) (held : List ρ) : Option (List ρ) :=
  events.foldlM step held

def attempt (ok : ρ → Bool) : List ρ → List (Event ρ) × Bool
  | [] => ([], true)
  | resource :: rest =>
      if ok resource then
        let r := attempt ok rest
        if r.2 then (.acquired resource :: r.1, true)
        else (.acquired resource :: (r.1 ++ [.released resource]), false)
      else ([], false)

def releaseAll (held : List ρ) : List (Event ρ) := held.map .released

section Attempt

variable {ok : ρ → Bool} {resource : ρ} {rest : List ρ} {events : List (Event ρ)}

theorem attempt_fail (h : ok resource = false) : attempt ok (resource :: rest) = ([], false) := by
  rw [attempt, h]
  rfl

theorem attempt_undo (h : ok resource = true) (hrest : attempt ok rest = (events, false)) :
    attempt ok (resource :: rest) =
      (.acquired resource :: (events ++ [.released resource]), false) := by
  rw [attempt, h, hrest]
  rfl

theorem attempt_keep (h : ok resource = true) (hrest : attempt ok rest = (events, true)) :
    attempt ok (resource :: rest) = (.acquired resource :: events, true) := by
  rw [attempt, h, hrest]
  rfl

theorem resource_mem_attempt {ok : ρ → Bool} {resources : List ρ} {event : Event ρ}
    (h : event ∈ (attempt ok resources).1) : event.resource ∈ resources := by
  induction resources with
  | nil => cases h
  | cons resource rest ih =>
      cases hgrant : ok resource with
      | false =>
          rw [attempt_fail hgrant] at h
          cases h
      | true =>
          cases hok : attempt ok rest with
          | mk events all =>
              rw [hok] at ih
              cases all with
              | true =>
                  rw [attempt_keep hgrant hok] at h
                  rcases List.mem_cons.mp h with rfl | hmem
                  · exact List.mem_cons_self
                  · exact List.mem_cons_of_mem resource (ih hmem)
              | false =>
                  rw [attempt_undo hgrant hok] at h
                  rcases List.mem_cons.mp h with rfl | hmem
                  · exact List.mem_cons_self
                  rcases List.mem_append.mp hmem with hmem | hmem
                  · exact List.mem_cons_of_mem resource (ih hmem)
                  · rw [List.mem_singleton.mp hmem]
                    exact List.mem_cons_self

theorem resource_mem_releaseAll {held : List ρ} {event : Event ρ} (h : event ∈ releaseAll held) :
    event.resource ∈ held := by
  obtain ⟨resource, hmem, rfl⟩ := List.mem_map.mp h
  exact hmem

end Attempt

variable [DecidableEq ρ] {held : List ρ} {events later : List (Event ρ)}

@[simp] theorem replay_nil (held : List ρ) : replay [] held = some held := rfl

theorem replay_append {mid : List ρ} (h : replay events held = some mid) :
    replay (events ++ later) held = replay later mid := by
  rw [replay, List.foldlM_append, ← replay, h]
  rfl

theorem replay_acquired {resource : ρ} (h : resource ∉ held) :
    replay (.acquired resource :: events) held = replay events (resource :: held) := by
  rw [replay, List.foldlM_cons, step, if_neg h]
  rfl

theorem replay_released (resource : ρ) (held : List ρ) :
    replay (.released resource :: events) (resource :: held) = replay events held := by
  rw [replay, List.foldlM_cons, step, List.head?_cons, if_pos rfl]
  rfl

-- Everything acquired, or nothing.
theorem replay_attempt (ok : ρ → Bool) (resources held : List ρ)
    (h : (resources.reverse ++ held).Nodup) :
    replay (attempt ok resources).1 held =
      some (if (attempt ok resources).2 then resources.reverse ++ held else held) := by
  induction resources generalizing held with
  | nil => rfl
  | cons resource rest ih =>
      rw [List.reverse_cons, List.append_assoc, List.singleton_append] at h
      have hnew : resource ∉ held := (List.nodup_cons.mp h.of_append_right).1
      have hrest := ih (resource :: held) h
      cases hgrant : ok resource with
      | false =>
          rw [attempt_fail hgrant]
          rfl
      | true =>
          cases hok : attempt ok rest with
          | mk events all =>
              rw [hok] at hrest
              cases all with
              | true =>
                  rw [attempt_keep hgrant hok, List.reverse_cons, List.append_assoc]
                  exact (replay_acquired hnew).trans hrest
              | false =>
                  rw [attempt_undo hgrant hok]
                  exact (replay_acquired hnew).trans ((replay_append hrest).trans
                    (replay_released resource held))

theorem replay_releaseAll (resources held : List ρ) :
    replay (releaseAll resources) (resources ++ held) = some held := by
  induction resources with
  | nil => rfl
  | cons resource rest ih => exact (replay_released resource (rest ++ held)).trans ih

end Unwinding
