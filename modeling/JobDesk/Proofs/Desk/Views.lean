import Mathlib.Data.List.Basic
import JobDesk.Proofs.Desk.Interleaving

/-!
# Views — desks that agree in some of their waits

What a wait does in a step of its own depends on the coordinator, on what the table says of its job
and on where it stands itself.  Two desks that agree in so much let it do the same, and agree
afterwards in whatever else they agreed in of tables and waits.
-/

namespace JobDesk

open Coordinator (Notice WaitState)

structure MemoryStore.ReadsAlike (related : MemoryStore → MemoryStore → Prop) (id : Int64) :
    Prop where
  isClosed : ∀ {store other}, related store other → store.isClosed = other.isClosed
  status? : ∀ {store other}, related store other → store.status? id = other.status? id
  fetchStatus : ∀ {store other}, related store other →
    SameResult related (JobStore.fetchStatus store id) (JobStore.fetchStatus other id)

/-- Two desks with the same coordinator, related tables and the same waits of some kind. -/
structure Desk.SameIn (related : MemoryStore → MemoryStore → Prop) (kind : Waiter → Bool)
    (desk other : Desk) : Prop where
  coordinator : desk.coordinator = other.coordinator
  store : related desk.store other.store
  waiters : desk.waiters.filter kind = other.waiters.filter kind

structure Step.SameIn (related : MemoryStore → MemoryStore → Prop) (kind : Waiter → Bool)
    (step other : Step) : Prop where
  answer : step.answer = other.answer
  notices : step.notices = other.notices
  ended : step.ended = other.ended
  desk : step.desk.SameIn related kind other.desk

namespace Desk

variable {related : MemoryStore → MemoryStore → Prop} {kind : Waiter → Bool} {desk other : Desk}
variable {waiter : Waiter} {name : String}

theorem SameIn.idle (h : desk.SameIn related kind other) :
    desk.idle.SameIn related kind other.idle :=
  ⟨rfl, rfl, rfl, h⟩

theorem SameIn.onStore (h : desk.SameIn related kind other) {store after : MemoryStore}
    (hstore : related store after) :
    ({ desk with store := store } : Desk).SameIn related kind { other with store := after } :=
  ⟨h.coordinator, hstore, h.waiters⟩

theorem SameIn.halt (h : desk.SameIn related kind other) :
    desk.halt.SameIn related kind other.halt := by
  simp only [Desk.halt, h.coordinator]
  exact ⟨rfl, rfl, rfl, rfl, h.store, h.waiters⟩

theorem SameIn.without (h : desk.SameIn related kind other) (name : String) :
    (desk.without name).SameIn related kind (other.without name) := by
  refine ⟨h.coordinator, h.store, ?_⟩
  simp only [Desk.without]
  rw [List.filter_comm, h.waiters, List.filter_comm]

theorem SameIn.signals (h : desk.SameIn related kind other) (waiter : Waiter) :
    desk.signals waiter = other.signals waiter := by
  rw [Desk.signals, Desk.signals, h.coordinator]

theorem SameIn.putBack (h : desk.SameIn related kind other) (waiter : Waiter)
    (notices : List Notice) :
    (desk.putBack waiter notices).SameIn related kind (other.putBack waiter notices) := by
  unfold Desk.putBack
  cases waiter.state with
  | ended result => exact ⟨rfl, rfl, rfl, h⟩
  | reading lastSeen | sleeping lastSeen =>
    refine ⟨rfl, rfl, rfl, h.coordinator, h.store, ?_⟩
    simp only [List.filter_append, h.waiters]

theorem SameIn.read (h : desk.SameIn related kind other)
    (hreads : MemoryStore.ReadsAlike related waiter.id) :
    (desk.read waiter).SameIn related kind (other.read waiter) := by
  obtain ⟨hanswer, hafter⟩ := hreads.fetchStatus h.store
  have hwaiting : desk.coordinator.settings.waiting = other.coordinator.settings.waiting := by
    rw [h.coordinator]
  unfold Desk.read
  rw [h.signals, hwaiting]
  cases waiter.state with
  | sleeping lastSeen | ended result =>
    simp only [WaitState.read]
    exact (h.onStore h.store).putBack _ _
  | reading lastSeen =>
    simp only [WaitState.read, hanswer]
    exact (h.onStore hafter).putBack _ _

theorem SameIn.ask (h : desk.SameIn related kind other)
    (hreads : MemoryStore.ReadsAlike related waiter.id) :
    (desk.ask waiter).SameIn related kind (other.ask waiter) := by
  unfold Desk.ask
  rw [hreads.isClosed h.store]
  split
  · exact h.read hreads
  · split
    · exact (h.onStore (hreads.fetchStatus h.store).related).putBack waiter []
    · exact h.putBack waiter []

section

variable (h : desk.SameIn related kind other) (hnamed : desk.named name = other.named name)
variable (hreads : ∀ waiter, (desk.named name).head? = some waiter →
  MemoryStore.ReadsAlike related waiter.id)

include h hnamed

theorem SameIn.abandon :
    (desk.apply (.abandon name)).SameIn related kind (other.apply (.abandon name)) := by
  cases hhead : (desk.named name).head? with
  | none =>
    simp only [Desk.apply, take?_eq, ← hnamed, hhead]
    exact h.idle
  | some waiter =>
    rw [apply_abandon hhead, apply_abandon (hnamed ▸ hhead), Desk.signal, Desk.signal, h.signals]
    exact (h.without name).putBack _ _

theorem SameIn.fire : (desk.fire name).SameIn related kind (other.fire name) := by
  unfold Desk.fire
  rw [take?_eq, take?_eq, ← hnamed]
  cases (desk.named name).head? with
  | none => exact h.idle
  | some waiter => exact (h.without name).putBack _ _

theorem SameIn.look : (desk.look name).SameIn related kind (other.look name) := by
  unfold Desk.look
  rw [take?_eq, take?_eq, ← hnamed]
  cases (desk.named name).head? with
  | none => exact h.idle
  | some waiter =>
    simp only [Option.map_some, Desk.signal, h.signals waiter]
    exact (h.without name).putBack _ _

theorem SameIn.drop :
    (desk.apply (.drop name)).SameIn related kind (other.apply (.drop name)) := by
  simp only [Desk.apply, take?_eq, ← hnamed]
  cases (desk.named name).head? with
  | none => exact h.idle
  | some waiter => exact (h.without name).idle

include hreads

theorem SameIn.wake :
    (desk.apply (.wake name)).SameIn related kind (other.apply (.wake name)) := by
  cases hhead : (desk.named name).head? with
  | none =>
    simp only [Desk.apply, take?_eq, ← hnamed, hhead]
    exact h.idle
  | some waiter =>
    rw [apply_wake hhead, apply_wake (hnamed ▸ hhead), h.signals waiter]
    exact (h.without name).read (hreads waiter hhead)

theorem SameIn.elapse : (desk.elapse name).SameIn related kind (other.elapse name) := by
  unfold Desk.elapse
  rw [take?_eq, take?_eq, ← hnamed]
  cases hhead : (desk.named name).head? with
  | none => exact h.idle
  | some waiter =>
    simp only [Option.map_some, h.signals waiter]
    split
    · exact (h.without name).ask (hreads waiter hhead)
    · exact h.idle

theorem SameIn.answerRead :
    (desk.answerRead name).SameIn related kind (other.answerRead name) := by
  unfold Desk.answerRead
  rw [take?_eq, take?_eq, ← hnamed]
  cases hhead : (desk.named name).head? with
  | none => exact h.idle
  | some waiter =>
    simp only [Option.map_some, h.signals waiter, h.coordinator,
      (hreads waiter hhead).status? h.store]
    split
    · exact (h.without name).putBack _ _
    · exact h.idle

end

end Desk

end JobDesk
