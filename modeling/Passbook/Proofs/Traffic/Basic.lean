import Mathlib.Logic.Function.Basic
import Passbook.Proofs.Manager.Request
import Passbook.Proofs.Work.Looks

/-! Any number of calls on one state, one step of one call at a time in any order, while time passes and signals fire.
A look at a task on a timeline is a sequence of such steps. -/

namespace Passbook

open Work

/-- Where a call stands: not begun, going on after a look at its signal, waiting for the next look, or over. -/
inductive Flight (σ β : Type) where
  | ready (task : Task σ β)
  | active (guard : Option (Guard β)) (work : Work σ (Outcome β))
  | waiting (guard : Option (Guard β)) (wake : Option Nat) (rest : Work σ (Outcome β))
  | answered (outcome : Outcome β)
  | dropped

namespace Flight

variable {σ τ ρ β : Type}

def next (preferred : Interruption) (m : Moment) : Flight σ β → σ → Flight σ β × σ
  | ready task, s =>
    match task.refusal? m with
    | some o => (answered o, s)
    | none => (waiting task.guard (some m.now) task.work, s)
  | active _ (.done o), s => (answered o, s)
  | active guard (.act f rest), s => (active guard (rest s), f s)
  | active guard (.sleep 0 rest), s => (active guard rest, s)
  | active guard (.sleep (ms + 1) rest), s => (waiting guard (some (m.now + ms + 1)) rest, s)
  | active guard .hang, s => (waiting guard none .hang, s)
  | waiting guard wake rest, s =>
    match guard.bind (·.interruption? preferred m) with
    | some o => (answered o, s)
    | none => if wake.any (· ≤ m.now) then (active guard rest, s) else (waiting guard wake rest, s)
  | answered o, s => (answered o, s)
  | dropped, s => (dropped, s)

def outcome? : Flight σ β → Option (Outcome β)
  | answered o => some o
  | _ => none

def ofStop (guard : Option (Guard β)) : Stop σ (Outcome β) → Flight σ β
  | .finished o => answered o
  | .waiting wake rest => waiting guard wake rest

/-- What is left of the call has the property, and so has every outcome that it can have without it. -/
def Meets (good : Work σ (Outcome β) → Prop) (post : Outcome β → Prop) : Flight σ β → Prop
  | ready task => good task.work ∧ ∀ g ∈ task.guard, ∀ started i, post (g.interrupted started i)
  | active guard work => good work ∧ ∀ g ∈ guard, ∀ started i, post (g.interrupted started i)
  | waiting guard _ rest => good rest ∧ ∀ g ∈ guard, ∀ started i, post (g.interrupted started i)
  | answered o => post o
  | dropped => True

lemma Meets.mono {good good' : Work σ (Outcome β) → Prop} {post : Outcome β → Prop}
    (hg : ∀ work, good work → good' work) {fl : Flight σ β} (h : fl.Meets good post) : fl.Meets good' post := by
  cases fl with
  | ready task => exact ⟨hg _ h.1, h.2⟩
  | active guard work => exact ⟨hg _ h.1, h.2⟩
  | waiting guard wake rest => exact ⟨hg _ h.1, h.2⟩
  | answered o => exact h
  | dropped => exact h

section Steps

variable {preferred : Interruption} {m : Moment} {view : σ → τ} {post : Outcome β → Prop}

lemma next_inactive {good : Work σ (Outcome β) → Prop} {fl : Flight σ β} (h : fl.Meets good post)
    (hn : ∀ guard work, fl ≠ active guard work) (s : σ) :
    (fl.next preferred m s).2 = s ∧ (fl.next preferred m s).1.Meets good post := by
  cases fl with
  | ready task =>
    cases hr : task.refusal? m with
    | some o =>
      simp only [next, hr]
      exact ⟨trivial, Task.post_refusal hr h.2⟩
    | none =>
      simp only [next, hr]
      exact ⟨trivial, h⟩
  | active guard work => exact absurd rfl (hn guard work)
  | waiting guard wake rest =>
    cases hi : guard.bind (·.interruption? preferred m) with
    | some o =>
      simp only [next, hi]
      exact ⟨trivial, Guard.post_interruption hi h.2⟩
    | none =>
      simp only [next, hi]
      split <;> exact ⟨rfl, h⟩
  | answered o => exact ⟨rfl, h⟩
  | dropped => exact ⟨rfl, h⟩

lemma next_quiet {fl : Flight σ β} (h : fl.Meets (Quiet view post) post) (s : σ) :
    view (fl.next preferred m s).2 = view s ∧ (fl.next preferred m s).1.Meets (Quiet view post) post := by
  by_cases ha : ∃ guard work, fl = active guard work
  · obtain ⟨guard, work, rfl⟩ := ha
    obtain ⟨hw, hg⟩ := h
    cases hw with
    | done ho => exact ⟨rfl, ho⟩
    | act hf hn => exact ⟨hf s, hn s, hg⟩
    | @sleep ms rest hn => cases ms <;> exact ⟨rfl, hn, hg⟩
    | hang => exact ⟨rfl, .hang, hg⟩
  · obtain ⟨hs, hm⟩ := next_inactive h (fun guard work he => ha ⟨guard, work, he⟩) s
    exact ⟨congrArg view hs, hm⟩

lemma next_once {operation : τ → ρ × τ} {late : ρ → Outcome β → Prop} (hlate : ∀ r o, post o → late r o)
    {fl : Flight σ β} (h : fl.Meets (Once view operation post late) post) (s : σ) :
    (view (fl.next preferred m s).2 = view s ∧
      (fl.next preferred m s).1.Meets (Once view operation post late) post) ∨
    (view (fl.next preferred m s).2 = (operation (view s)).2 ∧
      (fl.next preferred m s).1.Meets (Quiet view (late (operation (view s)).1)) (late (operation (view s)).1)) := by
  by_cases ha : ∃ guard work, fl = active guard work
  · obtain ⟨guard, work, rfl⟩ := ha
    obtain ⟨hw, hg⟩ := h
    cases hw with
    | quit hq =>
      have hfl : (active guard work).Meets (Quiet view post) post := ⟨hq, hg⟩
      obtain ⟨hv, hm⟩ := next_quiet hfl s
      exact .inl ⟨hv, hm.mono fun _ => .quit⟩
    | act hf hn => exact .inl ⟨hf s, hn s, hg⟩
    | @sleep ms rest hn => left; cases ms <;> exact ⟨rfl, hn, hg⟩
    | operate hf hn => exact .inr ⟨hf s, hn s, fun g hguard started i => hlate _ _ (hg g hguard started i)⟩
  · obtain ⟨hs, hm⟩ := next_inactive h (fun guard work he => ha ⟨guard, work, he⟩) s
    exact .inl ⟨congrArg view hs, hm⟩

lemma next_respects {R : τ → τ → Prop} (hR : ∀ x, R x x) {fl : Flight σ β}
    (h : fl.Meets (Respects view R) fun _ => True) (s : σ) : R (view s) (view (fl.next preferred m s).2) ∧
      (fl.next preferred m s).1.Meets (Respects view R) fun _ => True := by
  by_cases ha : ∃ guard work, fl = active guard work
  · obtain ⟨guard, work, rfl⟩ := ha
    obtain ⟨hw, hg⟩ := h
    cases hw with
    | done => exact ⟨hR _, trivial⟩
    | act hf hn => exact ⟨hf s, hn s, hg⟩
    | @sleep ms rest hn => cases ms <;> exact ⟨hR _, hn, hg⟩
    | hang => exact ⟨hR _, .hang, hg⟩
  · obtain ⟨hs, hm⟩ := next_inactive h (fun guard work he => ha ⟨guard, work, he⟩) s
    rw [hs]
    exact ⟨hR _, hm⟩

end Steps

section Looks

variable (preferred : Interruption) (m : Moment)

def steps : Nat → Flight σ β × σ → Flight σ β × σ
  | 0, x => x
  | n + 1, x => steps n (x.1.next preferred m x.2)

lemma run_eq_steps (guard : Option (Guard β)) (work : Work σ (Outcome β)) (s : σ) :
    ∃ n, steps preferred m n (active guard work, s) = (ofStop guard (work.run m.now s).1, (work.run m.now s).2) := by
  induction work generalizing s with
  | done o => exact ⟨1, rfl⟩
  | act f rest ih =>
    obtain ⟨n, hn⟩ := ih s (f s)
    exact ⟨n + 1, hn⟩
  | sleep ms rest ih =>
    cases ms with
    | zero =>
      obtain ⟨n, hn⟩ := ih s
      exact ⟨n + 1, hn⟩
    | succ ms => exact ⟨1, rfl⟩
  | hang => exact ⟨1, rfl⟩

/-- A look at a waiting task is a sequence of steps. -/
theorem poll_eq_steps (guard : Option (Guard β)) (wake : Option Nat) (rest : Work σ (Outcome β)) (s : σ) :
    ∃ n, steps preferred m n (waiting guard wake rest, s) =
      (ofStop guard (Guard.poll guard preferred m wake rest s).1, (Guard.poll guard preferred m wake rest s).2) := by
  cases hi : guard.bind (·.interruption? preferred m) with
  | some o =>
    rw [Guard.poll_interrupted hi]
    exact ⟨1, by simp [steps, next, hi, ofStop]⟩
  | none =>
    by_cases hw : wake.any (· ≤ m.now)
    · rw [Guard.poll_due hi hw]
      obtain ⟨n, hn⟩ := run_eq_steps preferred m guard rest s
      refine ⟨n + 1, ?_⟩
      simpa [steps, next, hi, hw] using hn
    · rw [Guard.poll_early hi hw]
      exact ⟨0, rfl⟩

theorem start_eq_steps (task : Task σ β) (s : σ) :
    ∃ n, steps preferred m n (ready task, s) = (ofStop task.guard (task.start m s).1, (task.start m s).2) := by
  unfold Task.start
  cases hr : task.refusal? m with
  | some o => exact ⟨1, by simp [steps, next, hr, ofStop]⟩
  | none =>
    have hunfired : ∀ g ∈ task.guard, g.signal.check m = none := by
      intro g hg
      simpa [Task.refusal?, Option.mem_def.mp hg, Guard.refusal?] using hr
    have hi := Guard.interruption?_eq_none hunfired preferred
    obtain ⟨n, hn⟩ := run_eq_steps preferred m task.guard task.work s
    refine ⟨n + 2, ?_⟩
    simpa [steps, next, hr, hi] using hn

end Looks

def drop : Flight σ β → Flight σ β
  | answered o => answered o
  | _ => dropped

lemma Meets.drop {good : Work σ (Outcome β) → Prop} {post : Outcome β → Prop} {fl : Flight σ β}
    (h : fl.Meets good post) : fl.drop.Meets good post := by
  cases fl with
  | answered o => exact h
  | ready | active | waiting | dropped => exact trivial

end Flight

structure Traffic (ι σ β : Type) where
  moment : Moment
  state : σ
  flights : ι → Flight σ β

inductive Turn (ι : Type) where
  | pass (ms : Nat)
  | cancel (family : Nat)
  | step (call : ι) (preferred : Interruption)
  | drop (call : ι)
  deriving DecidableEq, Repr

namespace Traffic

variable {ι σ β : Type}

def start (requests : ι → Request) (repositories : ι → Repository σ) (signals : ι → Signal) (m : Moment) (s : σ) :
    Traffic ι σ Answer where
  moment := m
  state := s
  flights i := .ready ((requests i).task (repositories i) (signals i))

def ofTasks (tasks : ι → Task σ β) (m : Moment) (s : σ) : Traffic ι σ β where
  moment := m
  state := s
  flights i := .ready (tasks i)

def answer? (w : Traffic ι σ β) (i : ι) : Option β := (w.flights i).outcome?.map Outcome.answer

lemma exists_answered {w : Traffic ι σ β} {i : ι} {a : β} (h : w.answer? i = some a) :
    ∃ o, w.flights i = .answered o ∧ o.answer = a := by
  obtain ⟨o, ho, ha⟩ := Option.map_eq_some_iff.mp h
  cases hfl : w.flights i with
  | answered x =>
    rw [hfl] at ho
    cases ho
    exact ⟨o, rfl, ha⟩
  | ready | active | waiting | dropped => simp [hfl, Flight.outcome?] at ho

variable [DecidableEq ι]

def turn (w : Traffic ι σ β) : Turn ι → Traffic ι σ β
  | .pass ms => { w with moment := { w.moment with now := w.moment.now + ms } }
  | .cancel family => { w with moment := w.moment.cancel family }
  | .step i preferred =>
    let (flight, state) := (w.flights i).next preferred w.moment w.state
    { w with state, flights := Function.update w.flights i flight }
  | .drop i => { w with flights := Function.update w.flights i (w.flights i).drop }

def play (w : Traffic ι σ β) (turns : List (Turn ι)) : Traffic ι σ β := turns.foldl turn w

lemma answer?_turn {w : Traffic ι σ β} {i : ι} {a : β} (h : w.answer? i = some a) (t : Turn ι) :
    (w.turn t).answer? i = some a := by
  obtain ⟨o, hfl, rfl⟩ := exists_answered h
  cases t with
  | pass ms => exact h
  | cancel family => exact h
  | step j preferred =>
    by_cases hij : i = j
    · subst hij
      simp [turn, answer?, hfl, Flight.next, Flight.outcome?]
    · simpa [turn, answer?, Function.update_of_ne hij] using h
  | drop j =>
    by_cases hij : i = j
    · subst hij
      simp [turn, answer?, hfl, Flight.drop, Flight.outcome?]
    · simpa [turn, answer?, Function.update_of_ne hij] using h

lemma answer?_play {w : Traffic ι σ β} {i : ι} {a : β} (h : w.answer? i = some a) (turns : List (Turn ι)) :
    (w.play turns).answer? i = some a := by
  induction turns generalizing w with
  | nil => exact h
  | cons t turns ih => exact ih (answer?_turn h t)

lemma flights_turn (w : Traffic ι σ β) (t : Turn ι) (i : ι) : (w.turn t).flights i = w.flights i ∨
    (∃ preferred, t = .step i preferred ∧
      (w.turn t).flights i = ((w.flights i).next preferred w.moment w.state).1) ∨
    (w.turn t).flights i = (w.flights i).drop := by
  cases t with
  | pass ms => exact .inl rfl
  | cancel family => exact .inl rfl
  | step j preferred =>
    by_cases hij : i = j
    · subst hij
      exact .inr (.inl ⟨preferred, rfl, by simp [turn]⟩)
    · exact .inl (by simp [turn, Function.update_of_ne hij])
  | drop j =>
    by_cases hij : i = j
    · subst hij
      exact .inr (.inr (by simp [turn]))
    · exact .inl (by simp [turn, Function.update_of_ne hij])

section Operating

variable {τ ρ : Type} {view : σ → τ}

lemma quiet_play {post : Outcome β → Prop} {w : Traffic ι σ β} {i : ι}
    (h : (w.flights i).Meets (Quiet view post) post) (turns : List (Turn ι)) :
    ((w.play turns).flights i).Meets (Quiet view post) post := by
  induction turns generalizing w with
  | nil => exact h
  | cons t turns ih =>
    apply ih
    rcases flights_turn w t i with hfl | ⟨preferred, -, hfl⟩ | hfl <;> rw [hfl]
    · exact h
    · exact (Flight.next_quiet h w.state).2
    · exact h.drop

lemma once_play {operation : τ → ρ × τ} {early : Outcome β → Prop} {late : ρ → Outcome β → Prop}
    (hlate : ∀ r o, early o → late r o) {w : Traffic ι σ β} {i : ι}
    (h : (w.flights i).Meets (Once view operation early late) early) (turns : List (Turn ι)) :
    ((w.play turns).flights i).Meets (Once view operation early late) early ∨
    ∃ before preferred later, turns = before ++ .step i preferred :: later ∧ (w.play before).answer? i = none ∧
      ((w.play turns).flights i).Meets (Quiet view (late (operation (view (w.play before).state)).1))
        (late (operation (view (w.play before).state)).1) := by
  induction turns generalizing w with
  | nil => exact .inl h
  | cons t turns ih =>
    have hlater : ((w.turn t).flights i).Meets (Once view operation early late) early →
        ((w.play (t :: turns)).flights i).Meets (Once view operation early late) early ∨
        ∃ before preferred later, t :: turns = before ++ .step i preferred :: later ∧ (w.play before).answer? i = none ∧
          ((w.play (t :: turns)).flights i).Meets (Quiet view (late (operation (view (w.play before).state)).1))
            (late (operation (view (w.play before).state)).1) := by
      intro hturn
      rcases ih hturn with hplay | ⟨before, preferred, later, rfl, hopen, hplay⟩
      · exact .inl hplay
      · exact .inr ⟨t :: before, preferred, later, rfl, hopen, hplay⟩
    rcases flights_turn w t i with hfl | ⟨preferred, rfl, hfl⟩ | hfl <;> rw [hfl] at hlater
    · exact hlater h
    · cases ha : w.answer? i with
      | some a =>
        -- an answer stays, and nothing is done after it
        obtain ⟨o, ho, -⟩ := exists_answered ha
        rw [ho] at h hlater
        exact hlater h
      | none =>
        rcases Flight.next_once hlate h w.state with ⟨-, hm⟩ | ⟨-, hm⟩
        · exact hlater hm
        · right
          refine ⟨[], preferred, turns, rfl, ha, ?_⟩
          rw [← hfl] at hm
          exact quiet_play hm turns
    · exact hlater h.drop

end Operating

section Respecting

variable {τ : Type} {view : σ → τ} {R : τ → τ → Prop} (hrefl : ∀ x, R x x) {w : Traffic ι σ β}

include hrefl

lemma respects_turn (h : ∀ i, (w.flights i).Meets (Respects view R) fun _ => True) (t : Turn ι) :
    R (view w.state) (view (w.turn t).state) ∧
      ∀ i, ((w.turn t).flights i).Meets (Respects view R) fun _ => True := by
  have hupdate : ∀ i (fl : Flight σ β), (fl.Meets (Respects view R) fun _ => True) →
      ∀ j, (Function.update w.flights i fl j).Meets (Respects view R) fun _ => True := by
    intro i fl hfl
    rw [Function.forall_update_iff w.flights fun _ fl => fl.Meets (Respects view R) fun _ => True]
    exact ⟨hfl, fun j _ => h j⟩
  cases t with
  | pass ms => exact ⟨hrefl _, h⟩
  | cancel family => exact ⟨hrefl _, h⟩
  | step i preferred =>
    obtain ⟨hs, hfl⟩ := Flight.next_respects hrefl (h i) w.state
    exact ⟨hs, hupdate i _ hfl⟩
  | drop i => exact ⟨hrefl _, hupdate i _ (h i).drop⟩

lemma respects_play (htrans : ∀ {x y z}, R x y → R y z → R x z)
    (h : ∀ i, (w.flights i).Meets (Respects view R) fun _ => True) (turns : List (Turn ι)) :
    R (view w.state) (view (w.play turns).state) ∧
      ∀ i, ((w.play turns).flights i).Meets (Respects view R) fun _ => True := by
  induction turns generalizing w with
  | nil => exact ⟨hrefl _, h⟩
  | cons t turns ih =>
    obtain ⟨hturn, hfl⟩ := respects_turn hrefl h t
    obtain ⟨hplay, hfl'⟩ := ih hfl
    exact ⟨htrans hturn hplay, hfl'⟩

end Respecting

end Traffic

end Passbook
