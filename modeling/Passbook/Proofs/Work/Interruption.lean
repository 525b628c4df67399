import Mathlib.Data.List.ReduceOption
import Mathlib.Data.List.TakeWhile
import Passbook.Proofs.Work.Looks
import Passbook.Work.Timeline

/-! Work that its signal interrupts. Up to the first look at which the signal has fired, the work goes on as it would
alone. At that look it is dropped before it can do anything more, if it is not over by then. On a clock, the looks are
where the waits of the work end, or at the deadline. -/

namespace Passbook

section Reasons

variable {signal : Signal} {m : Moment} {i : Interruption}

def Signal.Reports (signal : Signal) (m : Moment) : Interruption → Prop
  | .cancelled => signal.isCancelled m
  | .deadlineExceeded => signal.isExpired m

def Signal.isQuiet (signal : Signal) (m : Moment) : Bool := !signal.isCancelled m && !signal.isExpired m

lemma Signal.isQuiet_iff : signal.isQuiet m ↔ signal.check m = none := by
  cases hc : signal.isCancelled m <;> cases he : signal.isExpired m <;> simp [isQuiet, check, hc, he]

lemma Signal.reports_of_check (h : signal.check m = some i) : signal.Reports m i := by
  unfold Signal.check at h
  split at h
  · next hc =>
    cases h
    exact hc
  · split at h
    · next he =>
      cases h
      exact he
    · cases h

lemma Signal.reports_of_fired {preferred : Interruption} (h : signal.fired preferred m = some i) :
    signal.Reports m i := by
  unfold Signal.fired at h
  split at h
  · next hboth =>
    obtain ⟨hc, he⟩ := (Bool.and_eq_true _ _).mp hboth
    cases h
    cases i with
    | cancelled => exact hc
    | deadlineExceeded => exact he
  · exact reports_of_check h

lemma Signal.exists_check (h : ¬ signal.isQuiet m) : ∃ i, signal.check m = some i := by
  rw [isQuiet_iff] at h
  exact Option.ne_none_iff_exists'.mp h

lemma Signal.exists_fired (h : ¬ signal.isQuiet m) (preferred : Interruption) :
    ∃ i, signal.fired preferred m = some i := by
  unfold Signal.fired
  split
  · exact ⟨preferred, rfl⟩
  · exact exists_check h

end Reasons

namespace Task

open Work

variable {σ β : Type} {t : Task σ β} {g : Guard β} {m : Moment} {s : σ}

def alone (t : Task σ β) : Task σ β := { work := t.work }

def changes (looks : List (Look σ)) (s : σ) : σ := looks.foldl (fun s l => l.change s) s

lemma look_of_quiet {x : Stop σ (Outcome β) × σ} {l : Look σ} (h : g.signal.check l.moment = none) :
    look (some g) x l = look none x l := by
  obtain ⟨stop, s⟩ := x
  cases stop with
  | finished o => rfl
  | waiting wake rest =>
    have hquiet : (some g).bind (·.interruption? l.preferred l.moment) = none :=
      Guard.interruption?_eq_none (by simpa using h) l.preferred
    have hfree : (none : Option (Guard β)).bind (·.interruption? l.preferred l.moment) = none := rfl
    by_cases hwake : wake.any (· ≤ l.moment.now)
    · simp only [look, Guard.poll_due hquiet hwake, Guard.poll_due hfree hwake]
    · simp only [look, Guard.poll_early hquiet hwake, Guard.poll_early hfree hwake]

lemma look_of_fired {wake : Option Nat} {rest : Work σ (Outcome β)} {l : Look σ} {i : Interruption}
    (h : g.signal.fired l.preferred l.moment = some i) :
    look (some g) (.waiting wake rest, s) l = (.finished (g.interrupted true i), l.change s) :=
  Guard.poll_interrupted (by simp [Guard.interruption?, h]) wake rest (l.change s)

lemma attend_of_quiet (hg : t.guard = some g) (hm : g.signal.check m = none) {looks : List (Look σ)}
    (hlooks : ∀ l ∈ looks, g.signal.check l.moment = none) : t.attend m s looks = t.alone.attend m s looks := by
  have hstart : t.start m s = t.alone.start m s := by
    rw [start, refusal?_eq_none (by simpa [hg] using hm)]
    rfl
  have halone : t.alone.guard = none := rfl
  rw [attend, attend, hstart, hg, halone]
  generalize t.alone.start m s = x
  induction looks generalizing x with
  | nil => rfl
  | cons l looks ih =>
    obtain ⟨hl, hlooks⟩ := List.forall_mem_cons.mp hlooks
    rw [List.foldl_cons, List.foldl_cons, look_of_quiet hl]
    exact ih hlooks _

lemma attend_of_refused {i : Interruption} (hg : t.guard = some g) (hm : g.signal.check m = some i)
    (looks : List (Look σ)) : t.attend m s looks = (.finished (g.interrupted false i), changes looks s) := by
  have hstart : t.start m s = (.finished (g.interrupted false i), s) := by
    simp [start, refusal?, hg, Guard.refusal?, hm]
  rw [attend, hstart, foldl_look_finished]
  rfl

def early (signal : Signal) (looks : List (Look σ)) : List (Look σ) := looks.takeWhile fun l => signal.isQuiet l.moment

def late (signal : Signal) (looks : List (Look σ)) : List (Look σ) := looks.dropWhile fun l => signal.isQuiet l.moment

lemma early_append_late (signal : Signal) (looks : List (Look σ)) : early signal looks ++ late signal looks = looks :=
  List.takeWhile_append_dropWhile

lemma check_of_mem_early {signal : Signal} {looks : List (Look σ)} {l : Look σ} (h : l ∈ early signal looks) :
    signal.check l.moment = none :=
  Signal.isQuiet_iff.mp (List.mem_takeWhile_imp (p := fun l : Look σ => signal.isQuiet l.moment) h)

lemma attend_early (hg : t.guard = some g) (hm : g.signal.check m = none) (looks : List (Look σ)) :
    t.attend m s (early g.signal looks) = t.alone.attend m s (early g.signal looks) :=
  attend_of_quiet hg hm fun _ hl => check_of_mem_early hl

lemma attend_of_fired (hg : t.guard = some g) (hm : g.signal.check m = none) {looks rest : List (Look σ)} {l : Look σ}
    (hlate : late g.signal looks = l :: rest) :
    let before := t.alone.attend m s (early g.signal looks)
    ∃ i, g.signal.Reports l.moment i ∧ t.attend m s looks =
      (.finished (before.1.value?.getD (g.interrupted true i)), changes (late g.signal looks) before.2) := by
  intro before
  have hfired : ¬ g.signal.isQuiet l.moment := by
    have hl := List.head?_dropWhile_not (fun l : Look σ => g.signal.isQuiet l.moment) looks
    rw [late] at hlate
    simpa [hlate] using hl
  obtain ⟨i, hi⟩ := Signal.exists_fired hfired l.preferred
  refine ⟨i, Signal.reports_of_fired hi, ?_⟩
  have hrun : t.attend m s looks = (late g.signal looks).foldl (look (some g)) before := by
    conv_lhs => rw [← early_append_late g.signal looks]
    rw [attend_append, attend_early hg hm, hg]
  rw [hrun, hlate]
  clear_value before
  obtain ⟨stop, s'⟩ := before
  cases stop with
  | finished o => exact foldl_look_finished _ o s' (l :: rest)
  | waiting wake work =>
    rw [List.foldl_cons, look_of_fired hi]
    exact foldl_look_finished _ _ _ rest

/-- Looks that come on time: where the wait of the work ends, or at the deadline if that is not later. -/
inductive OnTime (guard : Option (Guard β)) : Stop σ (Outcome β) × σ → List (Look σ) → Prop
  | rest {x : Stop σ (Outcome β) × σ} : OnTime guard x []
  | look {wake : Option Nat} {rest : Work σ (Outcome β)} {s : σ} {l : Look σ} {looks : List (Look σ)} :
      Job.wake? ⟨none, .waiting 0 guard wake rest⟩ = some l.moment.now →
      OnTime guard (Task.look guard (.waiting wake rest, s) l) looks → OnTime guard (.waiting wake rest, s) (l :: looks)

end Task

namespace Timeline

open Work

variable {σ β : Type}

section Moments

lemma moment_pollJob (w : Timeline σ β) (ticket : Nat) : (w.pollJob ticket).moment = w.moment := by
  unfold pollJob
  split
  · split
    · next guard wake rest _ _ =>
      cases Guard.poll guard .cancelled w.moment wake rest w.state with
      | mk stop s => cases stop <;> rfl
    · rfl
  · rfl

lemma moment_pollBefore (w : Timeline σ β) (ticket : Nat) : (w.pollBefore ticket).moment = w.moment := by
  unfold pollBefore
  generalize (w.jobs.filterMap Job.ticket?).filter (· < ticket) = tickets
  induction tickets generalizing w with
  | nil => rfl
  | cons k tickets ih => rw [List.foldl_cons, ih, moment_pollJob]

lemma cancelled_runBetween (t target : Nat) (w : Timeline σ β) :
    (runBetween t target w).moment.cancelled = w.moment.cancelled := by
  fun_induction runBetween t target w with
  | case1 t w h => rfl
  | case2 t w next h hnext ih => rw [ih, pollAll, moment_pollBefore, setNow]
  | case3 t w next h hnext => rfl

lemma moment_reach {w : Timeline σ β} {target : Nat} (h : w.now < target) (ticket : Nat) :
    (w.reach target ticket).moment = { w.moment with now := target } := by
  have hcancelled : (w.pollAll.runBetween w.now target).moment.cancelled = w.moment.cancelled := by
    rw [cancelled_runBetween, pollAll, moment_pollBefore]
  rw [reach, if_pos h, moment_pollBefore]
  exact congrArg (Moment.mk target) hcancelled

end Moments

section Waits

variable {guard : Option (Guard β)} {wake : Option Nat}

lemma await_cases (guard : Option (Guard β)) (wake : Option Nat) (ticket : Nat) (w : Timeline σ β) :
    (∃ t, wake = some t ∧ (∀ g ∈ guard, ∀ d ∈ g.signal.deadline, t < d) ∧
      w.await guard wake ticket = (.over, w.reach t ticket)) ∨
    (∃ g d, guard = some g ∧ g.signal.deadline = some d ∧ (∀ t ∈ wake, d ≤ t) ∧
      w.await guard wake ticket = (.interrupted (g.interrupted true .deadlineExceeded), w.reach d ticket)) ∨
    (wake = none ∧ (∀ g ∈ guard, g.signal.deadline = none) ∧ w.await guard wake ticket = (.endless, w)) := by
  have hfree (hnone : guard.bind (fun g => g.signal.deadline.map (g, ·)) = none) :
      ∀ g ∈ guard, g.signal.deadline = none := by
    rintro g rfl
    simpa using hnone
  unfold await
  split
  · next g d t hg =>
    obtain ⟨g', rfl, hd⟩ := Option.bind_eq_some_iff.mp hg
    obtain ⟨d', hd', heq⟩ := Option.map_eq_some_iff.mp hd
    cases heq
    split
    · next hle => exact .inr (.inl ⟨g, d, rfl, hd', by simpa using hle, rfl⟩)
    · next hlt => exact .inl ⟨t, rfl, by simpa [hd'] using Nat.lt_of_not_le hlt, rfl⟩
  · next g d hg =>
    obtain ⟨g', rfl, hd⟩ := Option.bind_eq_some_iff.mp hg
    obtain ⟨d', hd', heq⟩ := Option.map_eq_some_iff.mp hd
    cases heq
    exact .inr (.inl ⟨g, d, rfl, hd', by simp, rfl⟩)
  · next t hg => exact .inl ⟨t, rfl, fun g hg' d hd => by simp [hfree hg g hg'] at hd, rfl⟩
  · next hg => exact .inr (.inr ⟨rfl, hfree hg, rfl⟩)

end Waits

section Drives

variable {guard : Option (Guard β)} {w : Timeline σ β} {wake : Option Nat} {rest : Work σ (Outcome β)} {s : σ}

def Leads (guard : Option (Guard β)) (x : Stop σ (Outcome β) × σ) (r : Option (Outcome β) × Timeline σ β) : Prop :=
  ∃ looks, Task.OnTime guard x looks ∧ r.1 = (looks.foldl (Task.look guard) x).1.value? ∧
    r.2.state = (looks.foldl (Task.look guard) x).2

def lookAt (w : Timeline σ β) (target ticket : Nat) : Look σ where
  moment := (w.reach target ticket).moment
  change _ := (w.reach target ticket).state

lemma check_reach {signal : Signal} {target : Nat} (h : signal.check w.moment = none) (hlater : w.now < target)
    (ticket : Nat) : signal.check (w.reach target ticket).moment =
      if signal.deadline.any (· ≤ target) then some .deadlineExceeded else none := by
  have hcancelled : signal.isCancelled { w.moment with now := target } = false := (Signal.check_eq_none_iff.mp h).1
  rw [moment_reach hlater, Signal.check, hcancelled]
  rfl

lemma leads_over {t ticket : Nat} {r : Option (Outcome β) × Timeline σ β}
    (h : ∀ g ∈ guard, g.signal.check (w.reach t ticket).moment = none) (hlater : w.now < t)
    (hbefore : ∀ g ∈ guard, ∀ d ∈ g.signal.deadline, t < d)
    (hr : Leads guard (rest.run (w.reach t ticket).now (w.reach t ticket).state) r) :
    Leads guard (.waiting (some t) rest, s) r := by
  have hnow : (w.reach t ticket).moment.now = t := by rw [moment_reach hlater]
  have hlook : Task.look guard (.waiting (some t) rest, s) (w.lookAt t ticket) =
      rest.run (w.reach t ticket).now (w.reach t ticket).state :=
    Task.look_of_due h (Nat.le_of_eq hnow.symm) rest s
  have hwake : Job.wake? ⟨none, .waiting 0 guard (some t) rest⟩ = some t := by
    cases guard with
    | none => rfl
    | some g =>
      cases hd : g.signal.deadline with
      | none => simp [Job.wake?, hd]
      | some d =>
        have hlt := Nat.le_of_lt (hbefore g rfl d hd)
        simp [Job.wake?, hd, List.min?_cons, Nat.min_eq_left hlt]
  obtain ⟨looks, htime, hvalue, hstate⟩ := hr
  rw [← hlook] at htime hvalue hstate
  exact ⟨w.lookAt t ticket :: looks, .look (hwake.trans (congrArg some hnow.symm)) htime, hvalue, hstate⟩

lemma leads_deadline {g : Guard β} {d ticket : Nat} (h : g.signal.check w.moment = none)
    (hd : g.signal.deadline = some d) (hle : ∀ t ∈ wake, d ≤ t) :
    Leads (some g) (.waiting wake rest, s) (some (g.interrupted true .deadlineExceeded), w.reach d ticket) := by
  have hlater : w.now < d := (Signal.check_eq_none_iff.mp h).2 d hd
  have hnow : (w.reach d ticket).moment.now = d := by rw [moment_reach hlater]
  have hfired : g.signal.fired .cancelled (w.lookAt d ticket).moment = some .deadlineExceeded := by
    rw [Signal.fired_cancelled, lookAt, check_reach h hlater, hd]
    simp
  have hlook : Task.look (some g) (.waiting wake rest, s) (w.lookAt d ticket) =
      (.finished (g.interrupted true .deadlineExceeded), (w.reach d ticket).state) := Task.look_of_fired hfired
  have hwake : Job.wake? ⟨none, .waiting 0 (some g) wake rest⟩ = some d := by
    cases wake with
    | none => simp [Job.wake?, hd]
    | some t => simp [Job.wake?, hd, List.min?_cons, Nat.min_eq_right (hle t rfl)]
  refine ⟨[w.lookAt d ticket], .look (hwake.trans (congrArg some hnow.symm)) .rest, ?_, ?_⟩
  · rw [List.foldl_cons, hlook]
    rfl
  · rw [List.foldl_cons, hlook]
    rfl

lemma leads_drive (foreground : Bool) {work : Work σ (Outcome β)} (h : ∀ g ∈ guard, g.signal.check w.moment = none) :
    Leads guard (work.run w.now w.state) (drive guard foreground work w) := by
  induction work generalizing w with
  | done o => exact ⟨[], .rest, rfl, rfl⟩
  | act f next ih => exact ih w.state (w := { w with state := f w.state }) h
  | sleep ms next ih =>
    cases ms with
    | zero => exact ih h
    | succ ms =>
      rw [drive, run]
      rcases await_cases guard (some (w.now + ms + 1)) (w.rank foreground) w with
        ⟨t, ht, hbefore, hawait⟩ | ⟨g, d, rfl, hd, hle, hawait⟩ | ⟨hnone, -⟩
      · cases ht
        have hlater : w.now < w.now + ms + 1 := by omega
        have hquiet : ∀ g ∈ guard, g.signal.check (w.reach (w.now + ms + 1) (w.rank foreground)).moment = none := by
          intro g hg
          rw [check_reach (h g hg) hlater]
          cases hd : g.signal.deadline with
          | none => rfl
          | some d => simpa using hbefore g hg d hd
        rw [hawait]
        exact leads_over hquiet hlater hbefore (ih hquiet)
      · rw [hawait]
        exact leads_deadline (h g rfl) hd hle
      · cases hnone
  | hang =>
    rw [drive, run]
    rcases await_cases guard none (w.rank foreground) w with
      ⟨t, ht, -⟩ | ⟨g, d, rfl, hd, hle, hawait⟩ | ⟨-, -, hawait⟩
    · cases ht
    · rw [hawait]
      exact leads_deadline (h g rfl) hd hle
    · rw [hawait]
      exact ⟨[], .rest, rfl, rfl⟩

end Drives

end Timeline

namespace Task

/-- Work under a signal that has fired at the start is answered with the reason, and never begins. If it begins, it goes
on as it would alone through the looks that find the signal quiet, and what it has come to by the first look that does
not is final: its own result if it was over, else the reason, with nothing done at that look or later. On a clock, work
is looked at where its waits end, or at the deadline if that is not later. -/
theorem run_cut_by_signal {σ α β : Type} (signal : Signal) (work : Work σ (Except LedgerError α))
    (answer : (started : Bool) → Except LedgerError α → Outcome β) (m : Moment) (s : σ) (looks : List (Look σ)) :
    let run := Task.under signal work answer
    let before := run.alone.attend m s (early signal looks)
    (¬ signal.isQuiet m → ∃ i, signal.Reports m i ∧ signal.check m = some i ∧
      run.attend m s looks = (.finished (answer false (.error i.error)), changes looks s)) ∧
    (signal.isQuiet m → run.attend m s (early signal looks) = before ∧
      ∀ l ∈ (late signal looks).head?, ∃ i, signal.Reports l.moment i ∧ run.attend m s looks =
        (.finished (before.1.value?.getD (answer true (.error i.error))), changes (late signal looks) before.2)) ∧
    ∀ (w : Timeline σ β) (foreground : Bool), signal.isQuiet w.moment →
      Timeline.Leads run.guard (run.start w.moment w.state) (w.drive run.guard foreground run.work) := by
  intro run before
  have hg : run.guard = some ⟨signal, fun started i => answer started (.error i.error)⟩ := rfl
  refine ⟨?_, ?_, ?_⟩
  · intro h
    obtain ⟨i, hi⟩ := Signal.exists_check h
    exact ⟨i, Signal.reports_of_check hi, hi, attend_of_refused hg hi looks⟩
  · intro h
    have hm : signal.check m = none := Signal.isQuiet_iff.mp h
    refine ⟨attend_early hg hm looks, ?_⟩
    intro l hl
    obtain ⟨rest, hlate⟩ := List.head?_eq_some_iff.mp hl
    exact attend_of_fired hg hm hlate
  · intro w foreground h
    have hm : ∀ g ∈ run.guard, g.signal.check w.moment = none := by
      rintro g ⟨⟩
      exact Signal.isQuiet_iff.mp h
    rw [start, refusal?_eq_none hm]
    exact Timeline.leads_drive foreground hm

def threeEffects : Work Nat (Except LedgerError Nat) :=
  .act (· + 1) fun _ => .sleep 5 (.act (· + 10) fun _ => .sleep 5 (.act (· + 100) fun n => .done (.ok n)))

theorem last_effect_lost_at_deadline :
    let run : Task Nat (Except LedgerError Nat) := .under ⟨0, some 10⟩ threeEffects fun _ r => ⟨[], r⟩
    let looks := [5, 7, 10, 15].map fun now => (⟨{ now := now }, .cancelled, id⟩ : Look Nat)
    run.attend {} 0 looks = (.finished ⟨[], .error .deadlineExceeded⟩, 11) := by
  intro run looks
  obtain ⟨-, hcut, -⟩ := run_cut_by_signal ⟨0, some 10⟩ threeEffects
    (fun _ r => (⟨[], r⟩ : Outcome (Except LedgerError Nat))) {} 0 looks
  obtain ⟨-, hlate⟩ := hcut rfl
  obtain ⟨i, hi, hrun⟩ := hlate _ rfl
  cases i with
  | cancelled => cases hi
  | deadlineExceeded => exact hrun

end Task

end Passbook
