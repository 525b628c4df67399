import Passbook.Proofs.Work.Effects
import Passbook.Repository.Faulty

/-! Repositories in front of a store: each call does the operation of the store at most once, and may wait, fail or
never end before or after it. -/

namespace Passbook.Repository

open Work

variable {σ α : Type} {faults : StoreError → Prop}

def Fails (faults : StoreError → Prop) (x : Except StoreError α) : Prop := ∃ e, faults e ∧ x = .error e

def Delivers (faults : StoreError → Prop) (r x : Except StoreError α) : Prop := x = r ∨ Fails faults x

/-- A repository whose calls reach the store that the view shows. Errors of its own are among the faults. -/
structure Wraps (r : Repository σ) (view : σ → Store) (faults : StoreError → Prop) : Prop where
  addUser user : Once view (Store.addUser user) (Fails faults) (Delivers faults) (r.addUser user)
  findUser user : Once view (fun s => (s.find user, s)) (Fails faults) (Delivers faults) (r.findUser user)
  addTransaction t : Once view (Store.record t) (Fails faults) (Delivers faults) (r.addTransaction t)
  history user page : Once view (fun s => (s.page user page, s)) (Fails faults) (Delivers faults) (r.history user page)

lemma wraps_store (faults : StoreError → Prop) : Store.repository.Wraps id faults where
  addUser user := .modify (Store.addUser user) fun _ => .inl rfl
  findUser user := .modify (fun s : Store => (s.find user, s)) fun _ => .inl rfl
  addTransaction t := .modify (Store.record t) fun _ => .inl rfl
  history user page := .modify (fun s : Store => (s.page user page, s)) fun _ => .inl rfl

section Faulty

variable {view : σ → Store} {operation : Store → Except StoreError α × Store} {work : Work σ (Except StoreError α)}

lemma once_apply (h : Once view operation (Fails faults) (Delivers faults) work) {f : Fault}
    (hf : ∀ e, f.error = some e → faults e) : Once view operation (Fails faults) (Delivers faults) (f.apply work) := by
  apply Once.sleep
  by_cases hh : f.hang
  · rw [if_pos hh]
    exact .quit .hang
  · rw [if_neg hh]
    cases he : f.error with
    | some e => exact .quit (.done ⟨e, hf e he, rfl⟩)
    | none =>
      induction h with
      | quit hq => exact .quit (hq.bind fun a ha => .sleep (.done ha))
      | act hg _ ih => exact .act hg ih
      | sleep _ ih => exact .sleep ih
      | operate hg hn => exact .operate hg fun s => (hn s).bind fun a ha => .sleep (.done ha)

lemma once_call (h : Once view operation (Fails faults) (Delivers faults) work) {plan : FaultPlan} (m : Method)
    (hp : ∀ f e, plan m = some f → f.error = some e → faults e) :
    Once (view ∘ Counted.state) operation (Fails faults) (Delivers faults) (plan.call m work) := by
  have hpart : Once (view ∘ Counted.state) operation (Fails faults) (Delivers faults)
      (work.onPart Counted.state fun s c => { c with state := s }) := h.onPart fun _ _ => rfl
  refine .act (fun _ => rfl) fun _ => ?_
  cases hm : plan m with
  | none => exact hpart
  | some f => exact once_apply hpart (hp f · hm)

lemma Wraps.faulty {r : Repository σ} (h : r.Wraps view faults) {plan : FaultPlan}
    (hp : ∀ m f e, plan m = some f → f.error = some e → faults e) :
    (r.faulty plan).Wraps (view ∘ Counted.state) faults where
  addUser user := once_call (h.addUser user) .addUser (hp _)
  findUser user := once_call (h.findUser user) .findUser (hp _)
  addTransaction t := once_call (h.addTransaction t) .addTransaction (hp _)
  history user page := once_call (h.history user page) .history (hp _)

end Faulty

end Passbook.Repository
