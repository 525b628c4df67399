import Passbook.Proofs.Traffic.AllOrNothing

/-! Runs of calls of the ledger and of the store behind it, mixed in any way. Each effect of each call lets the store
grow or leaves it alone, so all that was in it at one moment is in it at any later one. -/

namespace Passbook

open Work Store

inductive Use where
  | ledger (request : Request) (signal : Signal)
  | store (command : Command)
  deriving DecidableEq, Repr

inductive Reply where
  | answer (answer : Answer)
  | user (result : Except StoreError User)
  | recorded (result : Except StoreError Unit)
  | page (result : Except StoreError (List Transaction))

def Use.task {σ : Type} (r : Repository σ) : Use → Task σ Reply
  | ledger request signal => (request.task r signal).map .answer
  | store (.addUser user) => .free ((r.addUser user).map .user)
  | store (.findUser user) => .free ((r.findUser user).map .user)
  | store (.addTransaction t) => .free ((r.addTransaction t).map .recorded)
  | store (.history user page) => .free ((r.history user page).map .page)

section Growth

variable {σ : Type} {view : σ → Store} {faults : StoreError → Prop} {r : Repository σ}

lemma Request.grows_complete (req : Request) (s : Store) : s.Grows (req.complete s) := by
  cases req with
  | createUser user => exact .of_addUser s user
  | addTransaction t => exact .of_record s t
  | balance user => exact .same
  | history user page size => exact .same

lemma Use.respects_task (h : r.Wraps view faults) (use : Use) : Respects view Grows (use.task r).work := by
  have hrefl : ∀ s : Store, s.Grows s := fun _ => .same
  cases use with
  | ledger request signal =>
    exact (Respects.of_once hrefl request.grows_complete (Traffic.once_complete h signal request)).map _
  | store command =>
    cases command with
    | addUser user => exact ((Respects.of_once hrefl (Grows.of_addUser · user) (h.addUser user)).map _).map _
    | findUser user => exact ((Respects.of_once hrefl hrefl (h.findUser user)).map _).map _
    | addTransaction t => exact ((Respects.of_once hrefl (Grows.of_record · t) (h.addTransaction t)).map _).map _
    | history user page => exact ((Respects.of_once hrefl hrefl (h.history user page)).map _).map _

end Growth

open Traffic in
/-- All that is in the store at one moment of a run is in it at any later one: its users, the records of each in the
same order, and what its identities stand for. A user that is known cannot be registered again, nor can an identity be
recorded again, whatever comes with it. -/
theorem ledger_append_only {ι σ : Type} [DecidableEq ι] {view : σ → Store} {faults : StoreError → Prop}
    {repositories : ι → Repository σ} (hr : ∀ i, (repositories i).Wraps view faults) (uses : ι → Use) (m : Moment)
    (s : σ) (turns later : List (Turn ι)) :
    let w := (ofTasks (fun i => (uses i).task (repositories i)) m s).play turns
    let before := view w.state
    let after := view (w.play later).state
    (∀ user, before.isRegistered user → after.isRegistered user ∧
      after.addUser user = (.error (.userExists user), after)) ∧
    (∀ user, (before.history user).Sublist (after.history user)) ∧
    (∀ id t, before.recorded? id = some t → after.recorded? id = some t) ∧
    ∀ t, before.isRecorded t.id →
      after.record t = (.error .notFound, after) ∨ after.record t = (.error (.conflict t.id), after) := by
  intro w before after
  have hflights : ∀ i, (w.flights i).Meets (Respects view KeptIn) fun _ => True := by
    have hstart : ∀ i, ((ofTasks (fun i => (uses i).task (repositories i)) m s).flights i).Meets
        (Respects view KeptIn) fun _ => True := by
      intro i
      exact ⟨((uses i).respects_task (hr i)).mono fun _ _ => KeptIn.of_grows, fun _ _ _ _ => trivial⟩
    exact (respects_play KeptIn.refl KeptIn.trans hstart turns).2
  have hkept : before.KeptIn after := (respects_play KeptIn.refl KeptIn.trans hflights later).1
  refine ⟨?_, hkept.history, hkept.recorded?, ?_⟩
  · intro user hreg
    exact ⟨hkept.isRegistered user hreg, addUser_of_registered (hkept.isRegistered user hreg)⟩
  · intro t hrec
    rcases refusal?_of_recorded (hkept.isRecorded hrec) with href | href
    · exact .inl (record_of_refused href)
    · exact .inr (record_of_refused href)

/-- A user with one deposit, then a deposit that comes before it, the user once more, the identity of the first deposit
with another amount and time, and a call that is cancelled. -/
def mixed : Fin 6 → Use
  | 0 => .store (.addUser default)
  | 1 => .ledger (.addTransaction (.ofNumbers 1 20 25 1)) ⟨1, none⟩
  | 2 => .store (.addTransaction (.ofNumbers 2 10 1 0))
  | 3 => .ledger (.createUser default) ⟨3, none⟩
  | 4 => .store (.addTransaction (.ofNumbers 1 30 7 0))
  | 5 => .ledger (.addTransaction (.ofNumbers 3 40 1 0)) ⟨5, none⟩

open Traffic in
theorem ledger_append_only_mixed :
    let w := (ofTasks (fun i => (mixed i).task Store.repository) {} {}).play
      ([0, 1].flatMap fun i => List.replicate 4 (.step i .cancelled))
    let w' := w.play (.cancel 5 :: [2, 3, 4, 5].flatMap fun i => List.replicate 4 (.step i .cancelled))
    w.state.history default = [.ofNumbers 1 20 25 1] ∧
    w'.state.history default = [.ofNumbers 2 10 1 0, .ofNumbers 1 20 25 1] ∧
    (w.state.history default).Sublist (w'.state.history default) ∧
    ∃ e, w'.state.record (.ofNumbers 1 30 7 0) = (.error e, w'.state) := by
  have hr : ∀ _ : Fin 6, Store.repository.Wraps id fun _ => True := fun _ => Repository.wraps_store _
  obtain ⟨-, hhistory, -, hrecord⟩ := ledger_append_only hr mixed {} {}
    ([0, 1].flatMap fun i => List.replicate 4 (.step i .cancelled))
    (.cancel 5 :: [2, 3, 4, 5].flatMap fun i => List.replicate 4 (.step i .cancelled))
  refine ⟨rfl, rfl, hhistory default, ?_⟩
  rcases hrecord (.ofNumbers 1 30 7 0) rfl with h | h
  · exact ⟨_, h⟩
  · exact ⟨_, h⟩

end Passbook
