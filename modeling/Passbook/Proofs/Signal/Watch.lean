import Mathlib.Data.List.Count
import Mathlib.Tactic.Common
import Passbook.Signal.Watch

/-! No cancellation is lost on those who watch for it. A watcher that counts on being told has asked before it found the
flag not set. So a cancellation that is complete by then set the flag too late for that, and told later still. -/

namespace Passbook

def Watcher.left : Watcher → Nat
  | parking _ => 4
  | parked _ => 3
  | asking => 2
  | reading _ => 1
  | returned => 0

lemma Watcher.eq_returned {x : Watcher} (h : x.left = 0) : x = .returned := by
  cases x with
  | returned => rfl
  | asking | reading | parking | parked => cases h

namespace Watch

variable {ι κ : Type} {w : Watch ι κ}

/-- Who asked then has been told, or no cancellation is complete. -/
def Covers (w : Watch ι κ) (asked : Nat) : Prop :=
  w.isTold asked ∨ asked = w.tellings ∧ ∀ c, w.cancellings c ≠ .complete

inductive Allows (w : Watch ι κ) : Watcher → Prop
  | asking : Allows w .asking
  | reading {asked : Nat} : asked ≤ w.tellings → Allows w (.reading asked)
  | parking {asked : Nat} : w.Covers asked → Allows w (.parking asked)
  | parked {asked : Nat} : w.Covers asked → Allows w (.parked asked)
  | returned : w.flag → Allows w .returned

structure Sound (w : Watch ι κ) : Prop where
  flag_of_begun : ∀ c, w.cancellings c ≠ .setting → w.flag
  begun_of_flag : w.flag → ∃ c, w.cancellings c ≠ .setting
  watchers : ∀ i, w.Allows (w.watchers i)

lemma isTold_iff {asked : Nat} : w.isTold asked ↔ asked < w.tellings := decide_eq_true_iff

lemma Allows.mono {w' : Watch ι κ} {x : Watcher} (h : w.Allows x) (hflag : w.flag → w'.flag)
    (htellings : w.tellings ≤ w'.tellings) (hcovers : ∀ asked, w.Covers asked → w'.Covers asked) : w'.Allows x := by
  cases h with
  | asking => exact .asking
  | reading hle => exact .reading (Nat.le_trans hle htellings)
  | parking hc => exact .parking (hcovers _ hc)
  | parked hc => exact .parked (hcovers _ hc)
  | returned hf => exact .returned (hflag hf)

lemma Sound.start : Sound ({} : Watch ι κ) where
  flag_of_begun := fun _ h => absurd rfl h
  begun_of_flag := fun h => absurd h Bool.false_ne_true
  watchers := fun _ => .asking

section Next

lemma Sound.covers_of_unset (h : w.Sound) (hflag : ¬ w.flag) {asked : Nat} (hle : asked ≤ w.tellings) :
    w.Covers asked := by
  rcases Nat.lt_or_eq_of_le hle with hlt | heq
  · exact .inl (isTold_iff.mpr hlt)
  · refine .inr ⟨heq, ?_⟩
    intro c hc
    exact hflag (h.flag_of_begun c (by simp [hc]))

lemma Sound.next (h : w.Sound) {x : Watcher} (hx : w.Allows x) : w.Allows (w.next x) := by
  cases hx with
  | asking => exact .reading (Nat.le_refl w.tellings)
  | reading hle =>
    rw [Watch.next]
    split
    · next hflag => exact .returned hflag
    · next hflag => exact .parking (h.covers_of_unset hflag hle)
  | parking hc => exact .parked hc
  | parked hc =>
    rw [Watch.next]
    split
    · exact .asking
    · exact .parked hc
  | returned hflag => exact .returned hflag

lemma Covers.isTold {asked : Nat} (h : w.Covers asked) {c : κ} (hc : w.cancellings c = .complete) : w.isTold asked := by
  rcases h with h | ⟨-, hopen⟩
  · exact h
  · exact absurd hc (hopen c)

lemma Sound.left_next (h : w.Sound) {c : κ} (hc : w.cancellings c = .complete) {x : Watcher} (hx : w.Allows x) :
    (w.next x).left = x.left - 1 := by
  have hflag : w.flag := h.flag_of_begun c (by simp [hc])
  cases hx with
  | asking => rfl
  | reading hle => simp [Watch.next, hflag, Watcher.left]
  | parking hcovers => rfl
  | parked hcovers => simp [Watch.next, hcovers.isTold hc, Watcher.left]
  | returned hf => rfl

end Next

variable [DecidableEq κ]

lemma Sound.set (h : w.Sound) (c : κ) : ({ w with flag := true }.setCancelling c .telling).Sound := by
  refine ⟨fun _ _ => rfl, fun _ => ⟨c, by simp [setCancelling]⟩, ?_⟩
  intro i
  refine (h.watchers i).mono (fun _ => rfl) (Nat.le_refl w.tellings) ?_
  rintro asked (htold | ⟨heq, hopen⟩)
  · exact .inl htold
  · refine .inr ⟨heq, ?_⟩
    intro d
    by_cases hd : d = c
    · simp [setCancelling, hd]
    · simpa [setCancelling, hd] using hopen d

lemma Sound.tell (h : w.Sound) {c : κ} (hc : w.cancellings c = .telling) :
    ({ w with tellings := w.tellings + 1 }.setCancelling c .complete).Sound := by
  have hflag : w.flag := h.flag_of_begun c (by simp [hc])
  refine ⟨fun _ _ => hflag, fun _ => ⟨c, by simp [setCancelling]⟩, ?_⟩
  intro i
  refine (h.watchers i).mono id (Nat.le_succ w.tellings) ?_
  rintro asked (htold | ⟨heq, -⟩)
  · exact .inl (isTold_iff.mpr (Nat.lt_succ_of_lt (isTold_iff.mp htold)))
  · exact .inl (isTold_iff.mpr (heq ▸ Nat.lt_succ_self w.tellings))

variable [DecidableEq ι]

section Steps

lemma watchers_watch_of_ne (w : Watch ι κ) {i j : ι} (h : j ≠ i) :
    (w.step (.watch i)).watchers j = w.watchers j := if_neg h

lemma watchers_cancel (w : Watch ι κ) (c : κ) : (w.step (.cancel c)).watchers = w.watchers := by
  rw [step]
  split <;> rfl

lemma Sound.watch (h : w.Sound) (i : ι) : (w.step (.watch i)).Sound := by
  refine ⟨h.flag_of_begun, h.begun_of_flag, ?_⟩
  intro j
  have hallows : w.Allows ((w.step (.watch i)).watchers j) := by
    by_cases hj : j = i
    · subst hj
      rw [watchers_watch_self]
      exact h.next (h.watchers j)
    · rw [watchers_watch_of_ne w hj]
      exact h.watchers j
  exact hallows.mono id (Nat.le_refl w.tellings) fun _ => id

lemma Sound.step (h : w.Sound) (s : Step ι κ) : (w.step s).Sound := by
  cases s with
  | watch i => exact h.watch i
  | cancel c =>
    rw [Watch.step]
    split
    · exact h.set c
    · next hc => exact h.tell hc
    · exact h

lemma complete_step {c : κ} (hc : w.cancellings c = .complete) (s : Step ι κ) :
    (w.step s).cancellings c = .complete := by
  cases s with
  | watch i => exact hc
  | cancel d =>
    by_cases hd : c = d
    · subst hd
      rwa [step, hc]
    · rw [step]
      split <;> simpa [setCancelling, hd] using hc

end Steps

section Runs

lemma Sound.play (h : w.Sound) (steps : List (Step ι κ)) : (w.play steps).Sound := by
  induction steps generalizing w with
  | nil => exact h
  | cons s steps ih => exact ih (h.step s)

lemma Sound.left_play (h : w.Sound) {c : κ} (hc : w.cancellings c = .complete) (i : ι) (steps : List (Step ι κ)) :
    ((w.play steps).watchers i).left = (w.watchers i).left - steps.count (.watch i) := by
  induction steps generalizing w with
  | nil => rfl
  | cons s steps ih =>
    have hrest := ih (h.step s) (complete_step hc s)
    rw [show w.play (s :: steps) = (w.step s).play steps from rfl, hrest]
    cases s with
    | watch j =>
      by_cases hj : i = j
      · subst hj
        rw [watchers_watch_self, h.left_next hc (h.watchers i), List.count_cons_self, Nat.sub_sub, Nat.add_comm]
      · have hne : Step.watch j ≠ (Step.watch i : Step ι κ) := fun he => hj (Step.watch.inj he).symm
        rw [watchers_watch_of_ne w hj, List.count_cons_of_ne hne]
    | cancel d => rw [watchers_cancel, List.count_cons_of_ne (by simp)]

end Runs

/-- However the steps of the watchers and of the cancellations fall: a watcher that is parked after a cancellation is
complete has been told since it asked, a watcher has returned only if the flag is set, and four steps of its own after a
cancellation is complete it has returned. -/
theorem no_cancellation_lost (steps : List (Step ι κ)) :
    let w : Watch ι κ := play {} steps
    (∀ c i asked, w.cancellings c = .complete → w.watchers i = .parked asked → w.isTold asked) ∧
    (∀ i, w.watchers i = .returned → w.flag) ∧
    ∀ c i later, w.cancellings c = .complete → 4 ≤ later.count (.watch i) → (w.play later).watchers i = .returned := by
  intro w
  have hw : w.Sound := Sound.start.play steps
  refine ⟨?_, ?_, ?_⟩
  · intro c i asked hc hi
    have hallows := hw.watchers i
    rw [hi] at hallows
    cases hallows with
    | parked hcovers => exact hcovers.isTold hc
  · intro i hi
    have hallows := hw.watchers i
    rw [hi] at hallows
    cases hallows with
    | returned hflag => exact hflag
  · intro c i later hc hlater
    apply Watcher.eq_returned
    have hle : (w.watchers i).left ≤ 4 := by cases w.watchers i <;> simp [Watcher.left]
    rw [hw.left_play hc]
    omega

/-- The flag is set and the watcher told after it has read the flag and before it parks. -/
def setAfterRead : List (Step Unit Unit) := [.watch (), .watch (), .cancel (), .cancel (), .watch ()]

theorem parked_and_told :
    let w := play {} setAfterRead
    w.cancellings () = .complete ∧ w.watchers () = .parked 0 ∧ w.isTold 0 ∧
      (w.play (List.replicate 4 (.watch ()))).watchers () = .returned := by
  intro w
  obtain ⟨htold, -, hreturned⟩ := no_cancellation_lost setAfterRead
  exact ⟨rfl, rfl, htold () () 0 rfl rfl, hreturned () () _ rfl (by simp)⟩

section Polls

lemma rests_poll (w : Watch ι κ) (i : ι) : (w.poll i).rests ((w.poll i).watchers i) := by
  fun_induction poll w i with
  | case1 w hrests => exact hrests
  | case2 w hrests ih => exact ih

lemma cancellings_poll (w : Watch ι κ) (i : ι) : (w.poll i).cancellings = w.cancellings := by
  fun_induction poll w i with
  | case1 w hrests => rfl
  | case2 w hrests ih => exact ih

lemma Sound.poll (h : w.Sound) (i : ι) : (w.poll i).Sound := by
  fun_induction Watch.poll w i with
  | case1 w hrests => exact h
  | case2 w hrests ih => exact ih (h.watch i)

lemma Sound.returned_poll (h : w.Sound) {c : κ} (hc : w.cancellings c = .complete) (i : ι) :
    (w.poll i).watchers i = .returned := by
  have hallows := (h.poll i).watchers i
  have hrests := w.rests_poll i
  rw [← w.cancellings_poll i] at hc
  cases hx : (w.poll i).watchers i with
  | returned => rfl
  | parked asked =>
    rw [hx] at hallows hrests
    cases hallows with
    | parked hcovers => simp [rests, hcovers.isTold hc] at hrests
  | asking | reading | parking =>
    rw [hx] at hrests
    cases hrests

lemma Sound.begun_of_returned (h : w.Sound) {i : ι} (hi : (w.poll i).watchers i = .returned) :
    ∃ c, w.cancellings c ≠ .setting := by
  have hallows := (h.poll i).watchers i
  rw [hi] at hallows
  cases hallows with
  | returned hflag => exact w.cancellings_poll i ▸ (h.poll i).begun_of_flag hflag

/-- However the steps fall, a watcher that is polled after a cancellation is complete returns, and one that is polled
before any has begun waits. -/
theorem polled_after_cancel (steps : List (Step ι κ)) (i : ι) :
    let w : Watch ι κ := play {} steps
    ((∃ c, w.cancellings c = .complete) → (w.poll i).watchers i = .returned) ∧
    ((w.poll i).watchers i = .returned → ∃ c, w.cancellings c ≠ .setting) := by
  intro w
  have hw : w.Sound := Sound.start.play steps
  exact ⟨fun ⟨_, hc⟩ => hw.returned_poll hc i, fun hi => hw.begun_of_returned hi⟩

/-- The watch of a family at a moment. The watchers step as they will; the family and others are cancelled each at once. -/
inductive Shows (family : Nat) : Watch ι κ → Moment → Prop
  | start {m : Moment} : family ∉ m.cancelled → Shows family {} m
  | watch {w : Watch ι κ} {m : Moment} (i : ι) : Shows family w m → Shows family (w.step (.watch i)) m
  | cancel {w : Watch ι κ} {m : Moment} {c : κ} : Shows family w m → w.cancellings c = .setting →
      Shows family (w.play [.cancel c, .cancel c]) (m.cancel family)
  | other {w : Watch ι κ} {m : Moment} {other : Nat} : Shows family w m → other ≠ family → Shows family w (m.cancel other)
  | wait {w : Watch ι κ} {m : Moment} (now : Nat) : Shows family w m → Shows family w { m with now }

lemma cancellings_cancel {c : κ} (hc : w.cancellings c = .setting) :
    (w.play [(.cancel c : Step ι κ), .cancel c]).cancellings c = .complete := by
  simp [play, step, hc, setCancelling]

section Shows

variable {family : Nat} {m : Moment}

lemma Shows.sound (h : Shows family w m) : w.Sound := by
  induction h with
  | start _ => exact .start
  | watch i _ ih => exact ih.watch i
  | cancel _ _ ih => exact ih.play _
  | other _ _ ih => exact ih
  | wait _ _ ih => exact ih

lemma Shows.poll (h : Shows family w m) (i : ι) : Shows family (w.poll i) m := by
  fun_induction Watch.poll w i with
  | case1 w hrests => exact h
  | case2 w hrests ih => exact ih (h.watch i)

lemma Shows.cancelled_of_begun (h : Shows family w m) {c : κ} (hc : w.cancellings c ≠ .setting) :
    family ∈ m.cancelled := by
  induction h with
  | start _ => exact absurd rfl hc
  | watch i _ ih => exact ih hc
  | cancel _ _ _ => exact List.mem_cons_self
  | other _ _ ih => exact List.mem_cons_of_mem _ (ih hc)
  | wait _ _ ih => exact ih hc

lemma Shows.complete_of_cancelled (h : Shows family w m) (hm : family ∈ m.cancelled) :
    ∃ c, w.cancellings c = .complete := by
  induction h with
  | start hfree => exact absurd hm hfree
  | watch i _ ih => exact ih hm
  | @cancel w m c _ hc _ => exact ⟨c, cancellings_cancel hc⟩
  | other _ hother ih => exact ih ((List.mem_cons.mp hm).resolve_left hother.symm)
  | wait _ _ ih => exact ih hm

lemma Shows.returned_poll_iff (h : Shows family w m) (i : ι) :
    (w.poll i).watchers i = .returned ↔ family ∈ m.cancelled := by
  constructor
  · intro hi
    obtain ⟨c, hc⟩ := h.sound.begun_of_returned hi
    exact h.cancelled_of_begun hc
  · intro hm
    obtain ⟨c, hc⟩ := h.complete_of_cancelled hm
    exact h.sound.returned_poll hc i

/-- A waiting task that polls its watcher and its deadline finds what `Signal.fired` tells it of the moment, and leaves
a watch for which this is so again. -/
theorem fired_eq_look {s : Signal} (h : Shows s.family w m) (i : ι) (preferred : Interruption) :
    s.fired preferred m = w.look i preferred s m ∧ Shows s.family (w.poll i) m := by
  refine ⟨?_, h.poll i⟩
  have hcancelled : s.isCancelled m = decide ((w.poll i).watchers i = .returned) := by
    simp [Signal.isCancelled, h.returned_poll_iff i]
  rw [look, ← hcancelled, Signal.fired, Signal.check]
  cases s.isCancelled m <;> cases s.isExpired m <;> rfl

end Shows

end Polls

end Watch

end Passbook
