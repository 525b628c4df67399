import Mathlib.Data.List.Count
import Passbook.Proofs.Work.Interruption

/-! Signals on one clock, made from each other and cancelled in any order. What a signal reports follows from what was
done with all the signals so far: the copies of a signal are cancelled with it, and each has the deadline that was set
last on the way from the first of its family to it. -/

namespace Passbook

section Moments

structure Moment.Later (m m' : Moment) : Prop where
  now : m.now ≤ m'.now
  cancelled : ∀ f ∈ m.cancelled, f ∈ m'.cancelled

lemma Moment.Later.refl (m : Moment) : m.Later m := ⟨Nat.le_refl _, fun _ h => h⟩

lemma Moment.Later.trans {m m' m'' : Moment} (h : m.Later m') (h' : m'.Later m'') : m.Later m'' :=
  ⟨Nat.le_trans h.now h'.now, fun f hf => h'.cancelled f (h.cancelled f hf)⟩

variable {s : Signal} {m m' : Moment}

lemma Signal.isCancelled_iff : s.isCancelled m ↔ s.family ∈ m.cancelled := List.contains_iff_mem

lemma Signal.isExpired_iff : s.isExpired m ↔ ∃ d, s.deadline = some d ∧ d ≤ m.now := by
  cases hd : s.deadline <;> simp [isExpired, hd]

lemma Signal.check_eq_cancelled_iff : s.check m = some .cancelled ↔ s.isCancelled m := by
  cases hc : s.isCancelled m <;> cases he : s.isExpired m <;> simp [check, hc, he]

lemma Signal.check_eq_deadlineExceeded_iff :
    s.check m = some .deadlineExceeded ↔ ¬ s.isCancelled m ∧ s.isExpired m := by
  cases hc : s.isCancelled m <;> cases he : s.isExpired m <;> simp [check, hc, he]

lemma Signal.check_congr (hcancelled : s.isCancelled m' = s.isCancelled m) (hnow : m'.now = m.now) :
    s.check m' = s.check m := by
  rw [check, check, isExpired, isExpired, hcancelled, hnow]

lemma Signal.check_of_later {i : Interruption} (h : s.check m = some i) (hm : m.Later m') :
    s.check m' = some i ∨ i = .deadlineExceeded ∧ s.check m' = some .cancelled := by
  cases i with
  | cancelled =>
    left
    rw [check_eq_cancelled_iff, isCancelled_iff] at h ⊢
    exact hm.cancelled _ h
  | deadlineExceeded =>
    by_cases hc : s.isCancelled m'
    · exact .inr ⟨rfl, check_eq_cancelled_iff.mpr hc⟩
    · left
      obtain ⟨-, he⟩ := check_eq_deadlineExceeded_iff.mp h
      obtain ⟨d, hd, hle⟩ := isExpired_iff.mp he
      exact check_eq_deadlineExceeded_iff.mpr ⟨hc, isExpired_iff.mpr ⟨d, hd, Nat.le_trans hle hm.now⟩⟩

end Moments

namespace Timeline

variable {σ β : Type} (w : Timeline σ β)

lemma moment_cancel (s : Signal) : (w.cancel s).moment = w.moment.cancel s.family := moment_pollBefore _ _

lemma moment_advance (ms : Nat) : (w.advance ms).moment = { w.moment with now := w.now + ms } := by
  rw [advance, pollAll, moment_pollBefore]
  by_cases hms : ms = 0
  · subst hms
    rw [reach, if_neg (by omega)]
    rfl
  · exact moment_reach (Nat.lt_add_of_pos_right (Nat.pos_of_ne_zero hms)) 0

lemma nextFamily_pollJob (ticket : Nat) : (w.pollJob ticket).nextFamily = w.nextFamily := by
  unfold pollJob
  split
  · split
    · next guard wake rest _ _ =>
      cases Guard.poll guard .cancelled w.moment wake rest w.state with
      | mk stop s => cases stop <;> rfl
    · rfl
  · rfl

lemma nextFamily_pollBefore (ticket : Nat) : (w.pollBefore ticket).nextFamily = w.nextFamily := by
  unfold pollBefore
  generalize (w.jobs.filterMap Job.ticket?).filter (· < ticket) = tickets
  induction tickets generalizing w with
  | nil => rfl
  | cons k tickets ih => rw [List.foldl_cons, ih, nextFamily_pollJob]

lemma nextFamily_reach (target ticket : Nat) : (w.reach target ticket).nextFamily = w.nextFamily := by
  have hbetween (t : Nat) (w : Timeline σ β) : (runBetween t target w).nextFamily = w.nextFamily := by
    fun_induction runBetween t target w with
    | case1 t w h => rfl
    | case2 t w next h hnext ih => rw [ih, pollAll, nextFamily_pollBefore, setNow]
    | case3 t w next h hnext => rfl
  rw [reach]
  split
  · rw [nextFamily_pollBefore, setNow, hbetween, pollAll, nextFamily_pollBefore]
  · rfl

end Timeline

inductive Handling where
  | create
  | clone (n : Nat)
  | withDeadline (n deadline : Nat)
  | withTimeout (n ms : Nat)
  | cancel (n : Nat)
  | wait (ms : Nat)
  deriving DecidableEq, Repr

namespace Handling

def source? : Handling → Option Nat
  | clone n | withDeadline n _ | withTimeout n _ => some n
  | create | cancel _ | wait _ => none

/-- A signal that is given a deadline is used up for the one that has it. -/
def spent : Handling → List Nat
  | withDeadline n _ | withTimeout n _ => [n]
  | create | clone _ | cancel _ | wait _ => []

def makes (a : Handling) : Bool := a == create || a.source?.isSome

def duration : Handling → Nat
  | wait ms => ms
  | create | clone _ | withDeadline _ _ | withTimeout _ _ | cancel _ => 0

def derived (m : Moment) (s : Signal) : Handling → Signal
  | withDeadline _ d => s.withDeadline d
  | withTimeout _ ms => s.withTimeout m ms
  | create | clone _ | cancel _ | wait _ => s

end Handling

structure Handles (σ β : Type) where
  timeline : Timeline σ β
  signals : List Signal := []
  spent : List Nat := []

namespace Handles

variable {σ β : Type}

def moment (h : Handles σ β) : Moment := h.timeline.moment

def signal? (h : Handles σ β) (n : Nat) : Option Signal := if n ∈ h.spent then none else h.signals[n]?

def step (h : Handles σ β) : Handling → Option (Handles σ β)
  | .create =>
    let (s, timeline) := h.timeline.newSignal
    some { h with timeline, signals := h.signals ++ [s] }
  | .cancel n => (h.signal? n).map fun s => { h with timeline := h.timeline.cancel s }
  | .wait ms => some { h with timeline := h.timeline.advance ms }
  | .clone n => (h.signal? n).map fun s => { h with signals := h.signals ++ [s] }
  | .withDeadline n d => (h.signal? n).map fun s =>
    { h with signals := h.signals ++ [s.withDeadline d], spent := n :: h.spent }
  | .withTimeout n ms => (h.signal? n).map fun s =>
    { h with signals := h.signals ++ [s.withTimeout h.moment ms], spent := n :: h.spent }

/-- What a history leads to, which has the last step first. -/
def after (h : Handles σ β) : List Handling → Option (Handles σ β)
  | [] => some h
  | a :: past => (h.after past).bind fun h => h.step a

end Handles

namespace Handling

section Histories

def made (past : List Handling) : Nat := past.countP Handling.makes

def clock : List Handling → Nat
  | [] => 0
  | a :: past => clock past + a.duration

def family : List Handling → Nat → Nat
  | [], _ => 0
  | a :: past, n =>
    if n = made past then a.source?.elim (past.count .create) (family past) else family past n

def deadline? (start : Nat) : List Handling → Nat → Option Nat
  | [], _ => none
  | a :: past, n =>
    if n = made past then
      match a with
      | .withDeadline _ d => some d
      | .withTimeout _ ms => some (start + clock past + ms)
      | .clone k => deadline? start past k
      | .create | .cancel _ | .wait _ => none
    else deadline? start past n

def IsCalledOff (past : List Handling) (n : Nat) : Prop := ∃ k, .cancel k ∈ past ∧ family past k = family past n

variable {past : List Handling} {a : Handling} {n : Nat}

lemma made_cons_of_makes (h : a.makes) : made (a :: past) = made past + 1 := List.countP_cons_of_pos h

lemma made_le (a : Handling) (past : List Handling) : made past ≤ made (a :: past) :=
  (List.sublist_cons_self a past).countP_le

lemma family_cons_of_lt (h : n < made past) (a : Handling) : family (a :: past) n = family past n :=
  if_neg (Nat.ne_of_lt h)

lemma deadline?_cons_of_lt (h : n < made past) (a : Handling) (start : Nat) :
    deadline? start (a :: past) n = deadline? start past n := if_neg (Nat.ne_of_lt h)

end Histories

end Handling

namespace Handles

open Handling

variable {σ β : Type} {h h' : Handles σ β} {a : Handling}

lemma step_cases (hs : h.step a = some h') :
    (a = .create ∧ h' = ⟨h.timeline.newSignal.2, h.signals ++ [⟨h.timeline.nextFamily, none⟩], h.spent⟩) ∨
    (∃ n s, a.source? = some n ∧ h.signal? n = some s ∧
      h' = ⟨h.timeline, h.signals ++ [a.derived h.moment s], a.spent ++ h.spent⟩) ∨
    (∃ n s, a = .cancel n ∧ h.signal? n = some s ∧ h' = { h with timeline := h.timeline.cancel s }) ∨
    ∃ ms, a = .wait ms ∧ h' = { h with timeline := h.timeline.advance ms } := by
  cases a with
  | create => exact .inl ⟨rfl, (Option.some.inj hs).symm⟩
  | clone n =>
    obtain ⟨s, hn, rfl⟩ := Option.map_eq_some_iff.mp hs
    exact .inr (.inl ⟨n, s, rfl, hn, rfl⟩)
  | withDeadline n d =>
    obtain ⟨s, hn, rfl⟩ := Option.map_eq_some_iff.mp hs
    exact .inr (.inl ⟨n, s, rfl, hn, rfl⟩)
  | withTimeout n ms =>
    obtain ⟨s, hn, rfl⟩ := Option.map_eq_some_iff.mp hs
    exact .inr (.inl ⟨n, s, rfl, hn, rfl⟩)
  | cancel n =>
    obtain ⟨s, hn, rfl⟩ := Option.map_eq_some_iff.mp hs
    exact .inr (.inr (.inl ⟨n, s, rfl, hn, rfl⟩))
  | wait ms => exact .inr (.inr (.inr ⟨ms, rfl, (Option.some.inj hs).symm⟩))

lemma signal?_eq_some {n : Nat} {s : Signal} : h.signal? n = some s ↔ n ∉ h.spent ∧ h.signals[n]? = some s := by
  by_cases hn : n ∈ h.spent <;> simp [signal?, hn]

section Time

lemma later_step (hs : h.step a = some h') : h.moment.Later h'.moment ∧ h.signals <+: h'.signals := by
  rcases step_cases hs with ⟨rfl, rfl⟩ | ⟨n, s, -, -, rfl⟩ | ⟨n, s, rfl, -, rfl⟩ | ⟨ms, rfl, rfl⟩
  · exact ⟨.refl _, List.prefix_append _ _⟩
  · exact ⟨.refl _, List.prefix_append _ _⟩
  · refine ⟨?_, List.prefix_refl _⟩
    rw [moment, moment, Timeline.moment_cancel]
    exact ⟨Nat.le_refl _, fun f hf => List.mem_cons_of_mem _ hf⟩
  · refine ⟨?_, List.prefix_refl _⟩
    rw [moment, moment, Timeline.moment_advance]
    exact ⟨Nat.le_add_right _ _, fun f hf => hf⟩

lemma later_after {more : List Handling} (hm : h.after more = some h') :
    h.moment.Later h'.moment ∧ h.signals <+: h'.signals := by
  induction more generalizing h' with
  | nil =>
    cases hm
    exact ⟨.refl _, List.prefix_refl _⟩
  | cons a more ih =>
    obtain ⟨h₁, hmore, hs⟩ := Option.bind_eq_some_iff.mp hm
    obtain ⟨hlater, hsignals⟩ := ih hmore
    obtain ⟨hlater', hsignals'⟩ := later_step hs
    exact ⟨hlater.trans hlater', hsignals.trans hsignals'⟩

end Time

structure Fits (start : Timeline σ β) (past : List Handling) (h : Handles σ β) : Prop where
  length : h.signals.length = made past
  now : h.moment.now = start.now + clock past
  nextFamily : h.timeline.nextFamily = start.nextFamily + past.count .create
  signal : ∀ (n : Nat) (s : Signal), h.signals[n]? = some s →
    s = ⟨start.nextFamily + family past n, deadline? start.now past n⟩
  named : ∀ k, .cancel k ∈ past → k < made past
  cancelled : ∀ f, f ∈ h.moment.cancelled ↔
    f ∈ start.moment.cancelled ∨ ∃ k, .cancel k ∈ past ∧ f = start.nextFamily + family past k

namespace Fits

variable {start : Timeline σ β} {past : List Handling}

lemma lt_made (hf : h.Fits start past) {n : Nat} {s : Signal} (hn : h.signals[n]? = some s) : n < made past := by
  obtain ⟨hlt, -⟩ := List.getElem?_eq_some_iff.mp hn
  exact hf.length ▸ hlt

lemma signal_add (hf : h.Fits start past) {t : Signal}
    (ht : t = ⟨start.nextFamily + family (a :: past) (made past), deadline? start.now (a :: past) (made past)⟩)
    (n : Nat) (s : Signal) (hn : (h.signals ++ [t])[n]? = some s) :
    s = ⟨start.nextFamily + family (a :: past) n, deadline? start.now (a :: past) n⟩ := by
  -- the numbers that the history knows keep their signals, and the new one comes behind them
  rcases Nat.lt_or_ge n h.signals.length with hlt | hge
  · rw [List.getElem?_append_left hlt] at hn
    rw [family_cons_of_lt (hf.length ▸ hlt), deadline?_cons_of_lt (hf.length ▸ hlt)]
    exact hf.signal n s hn
  · rw [List.getElem?_append_right hge] at hn
    obtain ⟨hzero, hts⟩ := List.getElem?_eq_some_iff.mp hn
    have hlast : n = made past := by
      rw [List.length_singleton] at hzero
      have := hf.length
      omega
    rw [hlast, ← ht, ← hts]
    simp

lemma cancelled_cons (hf : h.Fits start past) (ha : ∀ k, a ≠ .cancel k) (f : Nat) :
    f ∈ h.moment.cancelled ↔
      f ∈ start.moment.cancelled ∨ ∃ k, .cancel k ∈ a :: past ∧ f = start.nextFamily + family (a :: past) k := by
  rw [hf.cancelled f]
  refine or_congr_right (exists_congr fun k => ?_)
  constructor
  · rintro ⟨hk, rfl⟩
    exact ⟨List.mem_cons_of_mem a hk, by rw [family_cons_of_lt (hf.named k hk)]⟩
  · rintro ⟨hk, rfl⟩
    have hk : .cancel k ∈ past := (List.mem_cons.mp hk).resolve_left (ha k).symm
    exact ⟨hk, by rw [family_cons_of_lt (hf.named k hk)]⟩

lemma named_cons (hf : h.Fits start past) (ha : ∀ k, a ≠ .cancel k) (k : Nat) (hk : .cancel k ∈ a :: past) :
    k < made (a :: past) := by
  have hk : .cancel k ∈ past := (List.mem_cons.mp hk).resolve_left (ha k).symm
  exact Nat.lt_of_lt_of_le (hf.named k hk) (made_le a past)

lemma create (hf : h.Fits start past) :
    Fits start (.create :: past) ⟨h.timeline.newSignal.2, h.signals ++ [⟨h.timeline.nextFamily, none⟩], h.spent⟩ where
  length := by rw [made_cons_of_makes rfl, List.length_append, hf.length, List.length_singleton]
  now := hf.now
  nextFamily := by rw [List.count_cons_self, ← Nat.add_assoc, ← hf.nextFamily]; rfl
  signal := hf.signal_add (by simp [family, deadline?, source?, hf.nextFamily])
  named := hf.named_cons (by simp)
  cancelled := hf.cancelled_cons (by simp)

lemma derive (hf : h.Fits start past) {n : Nat} {s : Signal} (hn : a.source? = some n) (hs : h.signals[n]? = some s) :
    Fits start (a :: past) ⟨h.timeline, h.signals ++ [a.derived h.moment s], a.spent ++ h.spent⟩ := by
  have hmakes : a.makes := by simp [makes, hn]
  have hquiet : a ≠ .create ∧ (∀ k, a ≠ .cancel k) ∧ a.duration = 0 := by cases a <;> simp_all [source?, duration]
  obtain ⟨hcreate, hcancel, hduration⟩ := hquiet
  refine ⟨?_, ?_, ?_, hf.signal_add ?_, hf.named_cons hcancel, hf.cancelled_cons hcancel⟩
  · rw [made_cons_of_makes hmakes, List.length_append, hf.length, List.length_singleton]
  · rw [clock, hduration]
    exact hf.now
  · rw [List.count_cons_of_ne hcreate]
    exact hf.nextFamily
  · rw [hf.signal n s hs]
    cases a with
    | clone k => cases hn; simp [derived, family, deadline?, source?]
    | withDeadline k d => cases hn; simp [derived, Signal.withDeadline, family, deadline?, source?]
    | withTimeout k ms =>
      cases hn
      simp [derived, Signal.withTimeout, Signal.withDeadline, family, deadline?, source?, hf.now]
    | create | cancel | wait => cases hn

lemma signal_of_not_makes (hf : h.Fits start past) (n : Nat) (s : Signal) (hn : h.signals[n]? = some s) :
    s = ⟨start.nextFamily + family (a :: past) n, deadline? start.now (a :: past) n⟩ := by
  rw [family_cons_of_lt (hf.lt_made hn), deadline?_cons_of_lt (hf.lt_made hn)]
  exact hf.signal n s hn

lemma cancel (hf : h.Fits start past) {n : Nat} {s : Signal} (hs : h.signals[n]? = some s) :
    Fits start (.cancel n :: past) { h with timeline := h.timeline.cancel s } := by
  have hmoment : (h.timeline.cancel s).moment = h.moment.cancel s.family := h.timeline.moment_cancel s
  have hn : n < made past := hf.lt_made hs
  refine ⟨hf.length, ?_, ?_, hf.signal_of_not_makes, ?_, ?_⟩
  · rw [moment, hmoment]
    exact hf.now
  · rw [List.count_cons_of_ne (by simp)]
    exact (Timeline.nextFamily_pollBefore _ _).trans hf.nextFamily
  · intro k hk
    rcases List.mem_cons.mp hk with hk | hk
    · cases hk
      exact hn
    · exact hf.named k hk
  · intro f
    rw [moment, hmoment, Moment.cancel, List.mem_cons, hf.cancelled f, hf.signal n s hs]
    constructor
    · rintro (rfl | hold | ⟨k, hk, rfl⟩)
      · exact .inr ⟨n, List.mem_cons_self, by rw [family_cons_of_lt hn]⟩
      · exact .inl hold
      · exact .inr ⟨k, List.mem_cons_of_mem _ hk, by rw [family_cons_of_lt (hf.named k hk)]⟩
    · rintro (hold | ⟨k, hk, rfl⟩)
      · exact .inr (.inl hold)
      · rcases List.mem_cons.mp hk with hk | hk
        · cases hk
          exact .inl (by rw [family_cons_of_lt hn])
        · exact .inr (.inr ⟨k, hk, by rw [family_cons_of_lt (hf.named k hk)]⟩)

lemma wait (hf : h.Fits start past) (ms : Nat) :
    Fits start (.wait ms :: past) { h with timeline := h.timeline.advance ms } := by
  have hmoment : (h.timeline.advance ms).moment = { h.moment with now := h.moment.now + ms } :=
    h.timeline.moment_advance ms
  refine ⟨hf.length, ?_, ?_, hf.signal_of_not_makes, hf.named_cons (by simp), ?_⟩
  · rw [moment, hmoment, clock, ← Nat.add_assoc, ← hf.now]
    rfl
  · rw [List.count_cons_of_ne (by simp), ← hf.nextFamily]
    exact (Timeline.nextFamily_pollBefore _ _).trans (Timeline.nextFamily_reach _ _ _)
  · intro f
    rw [moment, hmoment]
    exact hf.cancelled_cons (by simp) f

lemma step (hf : h.Fits start past) (hs : h.step a = some h') : h'.Fits start (a :: past) := by
  rcases step_cases hs with ⟨rfl, rfl⟩ | ⟨n, s, hn, hsig, rfl⟩ | ⟨n, s, rfl, hsig, rfl⟩ | ⟨ms, rfl, rfl⟩
  · exact hf.create
  · exact hf.derive hn (signal?_eq_some.mp hsig).2
  · exact hf.cancel (signal?_eq_some.mp hsig).2
  · exact hf.wait ms

lemma after (hpast : Handles.after ⟨start, [], []⟩ past = some h) : h.Fits start past := by
  induction past generalizing h with
  | nil =>
    cases hpast
    exact ⟨rfl, rfl, rfl, by simp, by simp, by simp [moment]⟩
  | cons a past ih =>
    obtain ⟨h₁, hpast, hs⟩ := Option.bind_eq_some_iff.mp hpast
    exact (ih hpast).step hs

lemma isCancelled_iff (hf : h.Fits start past) (hstart : ∀ f ∈ start.moment.cancelled, f < start.nextFamily) {n : Nat}
    {s : Signal} (hn : h.signals[n]? = some s) : s.isCancelled h.moment ↔ IsCalledOff past n := by
  rw [Signal.isCancelled_iff, hf.cancelled, hf.signal n s hn]
  constructor
  · rintro (hold | ⟨k, hk, heq⟩)
    · exact absurd (hstart _ hold) (by simp)
    · exact ⟨k, hk, (Nat.add_left_cancel heq).symm⟩
  · rintro ⟨k, hk, heq⟩
    exact .inr ⟨k, hk, by rw [heq]⟩

lemma isExpired_iff (hf : h.Fits start past) {n : Nat} {s : Signal} (hn : h.signals[n]? = some s) :
    s.isExpired h.moment ↔ ∃ d, deadline? start.now past n = some d ∧ d ≤ start.now + clock past := by
  rw [Signal.isExpired_iff, hf.signal n s hn, hf.now]

lemma check_step (hf : h.Fits start past) (hs : h.step a = some h') (ha : a.duration = 0) {n : Nat} {s : Signal}
    (hn : h.signal? n = some s) (hspent : n ∉ a.spent) (hcancel : ∀ k, a = .cancel k → family past k ≠ family past n) :
    h'.signal? n = some s ∧ s.check h'.moment = s.check h.moment := by
  obtain ⟨hheld, hsig⟩ := signal?_eq_some.mp hn
  have hlt : n < h.signals.length := (List.getElem?_eq_some_iff.mp hsig).1
  -- of the four kinds of steps only a cancellation and time move the moment
  rcases step_cases hs with ⟨rfl, rfl⟩ | ⟨k, t, -, -, rfl⟩ | ⟨k, t, rfl, ht, rfl⟩ | ⟨ms, rfl, rfl⟩
  · exact ⟨signal?_eq_some.mpr ⟨hheld, (List.getElem?_append_left hlt).trans hsig⟩, rfl⟩
  · have hnew : n ∉ a.spent ++ h.spent := by simp [hspent, hheld]
    exact ⟨signal?_eq_some.mpr ⟨hnew, (List.getElem?_append_left hlt).trans hsig⟩, rfl⟩
  · refine ⟨hn, ?_⟩
    have hmoment : (h.timeline.cancel t).moment = h.moment.cancel t.family := h.timeline.moment_cancel t
    have hne : s.family ≠ t.family := by
      rw [hf.signal n s hsig, hf.signal k t (signal?_eq_some.mp ht).2]
      intro heq
      exact hcancel k rfl (Nat.add_left_cancel heq).symm
    rw [moment, hmoment]
    exact Signal.check_congr (by simp [Signal.isCancelled, Moment.cancel, hne]) rfl
  · rw [duration] at ha
    subst ha
    refine ⟨hn, ?_⟩
    rw [moment, Timeline.moment_advance]
    exact Signal.check_congr rfl rfl

end Fits

/-- A signal reports a cancellation if one of its family has been cancelled, else its deadline if that has come: the one
that was set last on it or on those it was made from. No step but a cancellation in the family changes that at one
moment. Once a signal has fired it stays so, and at most its reason changes, to that of a cancellation. -/
theorem signals_report_history (start : Timeline σ β) (hstart : ∀ f ∈ start.moment.cancelled, f < start.nextFamily)
    (past : List Handling) (h : Handles σ β) (hpast : after ⟨start, [], []⟩ past = some h) :
    h.moment.now = start.now + clock past ∧
    (∀ n s, h.signal? n = some s →
      (s.check h.moment = some .cancelled ↔ IsCalledOff past n) ∧
      (s.check h.moment = some .deadlineExceeded ↔
        ¬ IsCalledOff past n ∧ ∃ d, deadline? start.now past n = some d ∧ d ≤ h.moment.now) ∧
      (s.check h.moment = none ↔
        ¬ IsCalledOff past n ∧ ∀ d, deadline? start.now past n = some d → h.moment.now < d)) ∧
    (∀ a h', h.step a = some h' → a.duration = 0 → ∀ n s, h.signal? n = some s → n ∉ a.spent →
      (∀ k, a = .cancel k → family past k ≠ family past n) →
      h'.signal? n = some s ∧ s.check h'.moment = s.check h.moment) ∧
    ∀ later h', h.after later = some h' → ∀ n s s', h.signal? n = some s → h'.signal? n = some s' →
      s' = s ∧ ∀ i, s.check h.moment = some i →
        s'.check h'.moment = some i ∨ i = .deadlineExceeded ∧ s'.check h'.moment = some .cancelled := by
  have hf : h.Fits start past := .after hpast
  refine ⟨hf.now, ?_, ?_, ?_⟩
  · intro n s hn
    have hsig := (signal?_eq_some.mp hn).2
    have hcancelled := hf.isCancelled_iff hstart hsig
    refine ⟨?_, ?_, ?_⟩
    · rw [Signal.check_eq_cancelled_iff, hcancelled]
    · rw [Signal.check_eq_deadlineExceeded_iff, hcancelled, hf.isExpired_iff hsig, hf.now]
    · rw [Signal.check_eq_none_iff, ← Bool.not_eq_true, hcancelled, hf.signal n s hsig]
      rfl
  · intro a h' hs ha n s hn hspent hcancel
    exact hf.check_step hs ha hn hspent hcancel
  · intro later h' hlater n s s' hn hn'
    obtain ⟨hmoment, hsignals⟩ := later_after hlater
    have hsame : s' = s := by
      have hsig := (signal?_eq_some.mp hn).2
      have hsig' := (signal?_eq_some.mp hn').2
      obtain ⟨more, hmore⟩ := hsignals
      rw [← hmore, List.getElem?_append_left (List.getElem?_eq_some_iff.mp hsig).1, hsig] at hsig'
      exact (Option.some.inj hsig').symm
    subst hsame
    exact ⟨rfl, fun i hi => Signal.check_of_later hi hmoment⟩

def twoFamilies : List Handling := [.wait 5, .create, .withTimeout 1 5, .clone 0, .create]

theorem deadline_then_cancelled :
    let start : Timeline Unit Unit := { state := () }
    let h : Handles Unit Unit :=
      ⟨start.newSignal.2.newSignal.2.advance 5, [⟨0, none⟩, ⟨0, none⟩, ⟨0, some 5⟩, ⟨1, none⟩], [1]⟩
    let h' : Handles Unit Unit := { h with timeline := h.timeline.cancel ⟨0, none⟩ }
    after ⟨start, [], []⟩ twoFamilies = some h ∧ h.step (.cancel 0) = some h' ∧
    Signal.check ⟨0, some 5⟩ h.moment = some .deadlineExceeded ∧
    Signal.check ⟨0, some 5⟩ h'.moment = some .cancelled ∧ Signal.check ⟨1, none⟩ h'.moment = none := by
  intro start h h'
  have hstart : ∀ f ∈ start.moment.cancelled, f < start.nextFamily := by simp [start]
  have hpast : after ⟨start, [], []⟩ twoFamilies = some h := rfl
  have hlater : after ⟨start, [], []⟩ (.cancel 0 :: twoFamilies) = some h' := rfl
  obtain ⟨hnow, hreports, -⟩ := signals_report_history start hstart twoFamilies h hpast
  obtain ⟨-, hreports', -⟩ := signals_report_history start hstart (.cancel 0 :: twoFamilies) h' hlater
  have hopen : ¬ IsCalledOff twoFamilies 2 := by simp [IsCalledOff, twoFamilies]
  have hother : ¬ IsCalledOff (.cancel 0 :: twoFamilies) 3 := by
    rintro ⟨k, hk, hfamily⟩
    simp [twoFamilies] at hk
    subst hk
    revert hfamily
    decide
  refine ⟨hpast, rfl, (hreports 2 _ rfl).2.1.mpr ⟨hopen, 5, rfl, ?_⟩, (hreports' 2 _ rfl).1.mpr ⟨0, by simp, rfl⟩,
    (hreports' 3 _ rfl).2.2.mpr ⟨hother, fun d hd => ?_⟩⟩
  · rw [hnow]
    decide
  · cases hd

end Handles

end Passbook
