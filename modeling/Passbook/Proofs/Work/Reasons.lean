import Mathlib.Data.List.Induction
import Passbook.Proofs.Work.Interruption
import Passbook.Service.Refusal

/-! The reason with which a signal ends work, beside the reason that it reports itself. Before the work starts they are
one question. A waiting task asks for either reason on its own, and a signal that is cancelled and expired at one look
may end it with the other one. -/

namespace Passbook

section Signals

variable {signal : Signal} {m : Moment} {preferred : Interruption}

lemma Signal.fired_eq_check_iff : signal.fired preferred m = signal.check m ↔
    ¬ (signal.isCancelled m ∧ signal.isExpired m ∧ preferred = .deadlineExceeded) := by
  cases hc : signal.isCancelled m <;> cases he : signal.isExpired m <;> cases preferred <;> simp [fired, check, hc, he]

end Signals

namespace Task

open Work

variable {σ β : Type} {t : Task σ β} {g : Guard β} {m : Moment} {s : σ}

lemma attend_of_cut (hg : t.guard = some g) {before : List (Look σ)} {l : Look σ} {i : Interruption}
    (hopen : (t.attend m s before).1.value? = none) (hi : g.signal.fired l.preferred l.moment = some i)
    (later : List (Look σ)) : (t.attend m s (before ++ l :: later)).1 = .finished (g.interrupted true i) := by
  rw [attend_append, List.foldl_cons]
  generalize t.attend m s before = x at hopen
  obtain ⟨stop, s'⟩ := x
  cases stop with
  | finished o => cases hopen
  | waiting wake rest => rw [hg, look_of_fired hi, foldl_look_finished]

lemma attend_of_undisturbed (hg : t.guard = some g) (hm : g.signal.check m = none) (looks : List (Look σ))
    (hquiet : ∀ before l later, looks = before ++ l :: later → (t.attend m s before).1.value? = none →
      g.signal.isQuiet l.moment) : t.attend m s looks = t.alone.attend m s looks := by
  induction looks using List.reverseRecOn with
  | nil => exact attend_of_quiet hg hm (by simp)
  | append_singleton looks l ih =>
    have hbefore : t.attend m s looks = t.alone.attend m s looks := by
      apply ih
      rintro before k later rfl
      exact hquiet before k (later ++ [l]) (by simp)
    rw [attend_concat, attend_concat, ← hbefore, hg]
    cases hstop : (t.attend m s looks).1 with
    | finished o => simp only [look, hstop]
    | waiting wake rest => exact look_of_quiet (Signal.isQuiet_iff.mp (hquiet looks l [] rfl (by rw [hstop]; rfl)))

/-- A signal that has fired at the start ends the work with the reason that it reports. So does one that fires while the
work waits, unless it is found cancelled and expired at one look and the look sees the deadline first. In no other way
does a signal end its work. -/
theorem run_ends_as_checked_iff {σ α β : Type} (signal : Signal) (work : Work σ (Except LedgerError α))
    (answer : (started : Bool) → Except LedgerError α → Outcome β) (m : Moment) (s : σ) (looks : List (Look σ)) :
    let run := Task.under signal work answer
    (∀ i, signal.check m = some i → (run.attend m s looks).1 = .finished (answer false (.error i.error))) ∧
    (∀ before l later, looks = before ++ l :: later → (run.attend m s before).1.value? = none →
      ¬ signal.isQuiet l.moment →
      ∃ i, signal.Reports l.moment i ∧ (run.attend m s looks).1 = .finished (answer true (.error i.error)) ∧
        (signal.check l.moment = some i ↔
          ¬ (signal.isCancelled l.moment ∧ signal.isExpired l.moment ∧ l.preferred = .deadlineExceeded))) ∧
    (signal.check m = none →
      (∀ before l later, looks = before ++ l :: later → (run.attend m s before).1.value? = none →
        signal.isQuiet l.moment) →
      run.attend m s looks = run.alone.attend m s looks) := by
  intro run
  have hg : run.guard = some ⟨signal, fun started i => answer started (.error i.error)⟩ := rfl
  refine ⟨?_, ?_, fun hm hquiet => attend_of_undisturbed hg hm looks hquiet⟩
  · intro i hi
    rw [attend_of_refused hg hi]
  · rintro before l later rfl hopen hfired
    obtain ⟨i, hi⟩ := Signal.exists_fired hfired l.preferred
    refine ⟨i, Signal.reports_of_fired hi, attend_of_cut hg hopen hi later, ?_⟩
    rw [← Signal.fired_eq_check_iff, hi]
    exact eq_comm

def cancelledAtDeadline (preferred : Interruption) : Look Unit := ⟨{ now := 10, cancelled := [0] }, preferred, id⟩

theorem cancelled_at_deadline_reported :
    let signal : Signal := ⟨0, some 10⟩
    let run : Task Unit (Except LedgerError Unit) := .under signal .hang fun _ r => ⟨[], r⟩
    (run.attend {} () [cancelledAtDeadline .cancelled]).1.value?.map Outcome.answer = some (.error .cancelled) ∧
    signal.check (cancelledAtDeadline .cancelled).moment = some .cancelled := by
  intro signal run
  obtain ⟨-, hcut, -⟩ := run_ends_as_checked_iff signal (.hang : Work Unit (Except LedgerError Unit))
    (fun _ r => (⟨[], r⟩ : Outcome (Except LedgerError Unit))) {} () [cancelledAtDeadline .cancelled]
  obtain ⟨i, -, hend, hcheck⟩ := hcut [] _ [] rfl rfl (by decide)
  have hi : signal.check (cancelledAtDeadline .cancelled).moment = some i := hcheck.mpr (by decide)
  cases i with
  | cancelled => exact ⟨congrArg (·.value?.map Outcome.answer) hend, hi⟩
  | deadlineExceeded => cases hi

theorem cancelled_at_deadline_misreported :
    let signal : Signal := ⟨0, some 10⟩
    let run : Task Unit (Except LedgerError Unit) := .under signal .hang fun _ r => ⟨[], r⟩
    (run.attend {} () [cancelledAtDeadline .deadlineExceeded]).1.value?.map Outcome.answer =
      some (.error .deadlineExceeded) ∧
    signal.check (cancelledAtDeadline .deadlineExceeded).moment = some .cancelled ∧
    Interruption.cancelled.error.status = 503 ∧ Interruption.deadlineExceeded.error.status = 504 :=
  ⟨rfl, rfl, rfl, rfl⟩

end Task

end Passbook
