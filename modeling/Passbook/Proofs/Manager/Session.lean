import Passbook.Proofs.Manager.Direct
import Passbook.Proofs.Store.Commands

/-! Calls of the ledger on a store of its own, one after the other, from the store with nothing in it. Such a store
answers at once, so a call is over when it has started, and it does to the store what one operation does or nothing. -/

namespace Passbook

structure Visit where
  request : Request
  signal : Signal := ⟨0, none⟩
  moment : Moment := {}
  deriving DecidableEq, Repr

namespace Visit

def start (v : Visit) (s : Store) : Work.Stop Store (Outcome Answer) × Store :=
  (v.request.task Store.repository v.signal).start v.moment s

def after (s : Store) (v : Visit) : Store := (v.start s).2

def answer? (v : Visit) (s : Store) : Option Answer :=
  match (v.start s).1 with
  | .finished o => some o.answer
  | .waiting _ _ => none

lemma answer?_eq (v : Visit) (s : Store) : v.answer? s = some (v.request.settle (v.signal.check v.moment) s).1 := by
  obtain ⟨events, h⟩ := v.request.ends_task v.signal v.moment s
  simp [answer?, start, h]

lemma after_eq (v : Visit) (s : Store) : v.after s = (v.request.settle (v.signal.check v.moment) s).2 := by
  obtain ⟨events, h⟩ := v.request.ends_task v.signal v.moment s
  simp [after, start, h]

lemma after_of_error {v : Visit} {s : Store} {a : Answer} {e : LedgerError} (h : v.answer? s = some a)
    (he : a.error? = some e) : v.after s = s := by
  rw [v.answer?_eq, Option.some.injEq] at h
  rw [v.after_eq]
  exact Request.settle_of_error (h ▸ he)

lemma after_cases (s : Store) (v : Visit) : v.after s = s ∨
    (∃ user, v.request = .createUser user ∧ ¬ s.isRegistered user ∧ v.after s = s.register user) ∨
    ∃ t, v.request = .addTransaction t ∧ t.isValid ∧ s.refusal? t = none ∧ v.after s = s.put t := by
  rw [v.after_eq]
  exact v.request.settle_cases (v.signal.check v.moment) s

lemma grows_after (v : Visit) (s : Store) : s.Grows (v.after s) := by
  rcases v.after_cases s with h | ⟨user, -, hnew, h⟩ | ⟨t, -, -, href, h⟩ <;> rw [h]
  · exact .same
  · exact .register hnew
  · exact .put href

end Visit

section Submissions

def Visit.IsUnfired (v : Visit) : Prop := v.signal.check v.moment = none

def Store.answers (s : Store) : List Visit → List (Option Answer)
  | [] => []
  | v :: visits => v.answer? s :: (v.after s).answers visits

def Store.serve (s : Store) (visits : List Visit) : Store := visits.foldl (fun s v => v.after s) s

lemma Store.serve_cons (s : Store) (v : Visit) (visits : List Visit) :
    s.serve (v :: visits) = (v.after s).serve visits := rfl

lemma Store.KeptIn.serve (s : Store) (visits : List Visit) : s.KeptIn (s.serve visits) := by
  induction visits generalizing s with
  | nil => exact .refl s
  | cons v visits ih => exact (KeptIn.of_grows (v.grows_after s)).trans (ih (v.after s))

def submitted (visits : List Visit) : List Transaction := visits.filterMap fun v => v.request.deposit?

lemma submitted_cons (v : Visit) (visits : List Visit) :
    submitted (v :: visits) = v.request.deposit?.toList ++ submitted visits := by
  cases h : v.request.deposit? <;> simp [submitted, h]

lemma isValid_of_submitted {visits : List Visit} {t : Transaction} (h : t ∈ submitted visits) : t.isValid := by
  obtain ⟨v, -, hv⟩ := List.mem_filterMap.mp h
  exact (Request.deposit?_eq_some hv).2

lemma Store.isRecorded_serve {id : TransactionId} {s : Store} {visits : List Visit}
    (h : ∀ t ∈ submitted visits, t.id ≠ id) : (s.serve visits).isRecorded id = s.isRecorded id := by
  induction visits generalizing s with
  | nil => rfl
  | cons v visits ih =>
    rw [submitted_cons] at h
    have hrest : ∀ t ∈ submitted visits, t.id ≠ id := fun t ht => h t (List.mem_append_right _ ht)
    rw [Store.serve_cons, ih hrest]
    rcases v.after_cases s with hs | ⟨user, -, -, hs⟩ | ⟨t, hr, hv, -, hs⟩ <;> rw [hs]
    · rfl
    · have hne : t.id ≠ id := h t (by simp [hr, Request.deposit?_of_valid hv])
      simp [Store.isRecorded_put, hne]

end Submissions

namespace Store

def served (visits : List Visit) : Store := visits.foldl (fun s v => v.after s) {}

lemma served_append (visits more : List Visit) : served (visits ++ more) = (served visits).serve more :=
  List.foldl_append

/-- What holds of a store that is reached through the ledger alone. -/
structure Sound (s : Store) : Prop extends s.Consistent where
  valid : ∀ t ∈ s.index, t.isValid

lemma Sound.register {s : Store} (hs : s.Sound) {user : UserId} (hnew : ¬ s.isRegistered user) :
    (s.register user).Sound :=
  ⟨hs.toConsistent.register hnew, hs.valid⟩

lemma Sound.put {s : Store} (hs : s.Sound) {t : Transaction} (hv : t.isValid) (hr : s.refusal? t = none) :
    (s.put t).Sound := by
  refine ⟨hs.toConsistent.put (isRegistered_of_refusal? hr) (not_isRecorded_of_refusal? hr), ?_⟩
  intro r hmem
  rcases List.mem_append.mp hmem with hmem | hmem
  · exact hs.valid r hmem
  · rw [List.mem_singleton.mp hmem]
    exact hv

lemma Sound.visit {s : Store} (hs : s.Sound) (v : Visit) : (v.after s).Sound := by
  rcases v.after_cases s with h | ⟨user, -, hnew, h⟩ | ⟨t, -, hv, hr, h⟩ <;> rw [h]
  · exact hs
  · exact hs.register hnew
  · exact hs.put hv hr

lemma Sound.visits {s : Store} (hs : s.Sound) (visits : List Visit) :
    (visits.foldl (fun s v => v.after s) s).Sound := by
  induction visits generalizing s with
  | nil => exact hs
  | cons v visits ih => exact ih (hs.visit v)

lemma sound_served (visits : List Visit) : (served visits).Sound := by
  have hempty : Sound {} := ⟨Consistent.empty, by simp⟩
  exact hempty.visits visits

end Store

end Passbook
