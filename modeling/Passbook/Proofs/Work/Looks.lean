import Mathlib.Tactic.Common
import Passbook.Work.Task

/-! Tasks that are looked at time after time, while signals fire and others change the state. What a view shows of the
state can be followed from one stop of the work to the next. -/

namespace Passbook

section Unfired

variable {β : Type} {m : Moment}

lemma Task.refusal?_eq_none {σ : Type} {task : Task σ β} (h : ∀ g ∈ task.guard, g.signal.check m = none) :
    task.refusal? m = none := by
  cases hg : task.guard with
  | none => simp [Task.refusal?, hg]
  | some g => simp [Task.refusal?, hg, Guard.refusal?, h g hg]

end Unfired

section Interrupted

variable {β : Type} {m : Moment} {post : Outcome β → Prop} {o : Outcome β}

lemma Task.post_refusal {σ : Type} {task : Task σ β} (h : task.refusal? m = some o)
    (hg : ∀ g ∈ task.guard, ∀ started i, post (g.interrupted started i)) : post o := by
  obtain ⟨g, hguard, hr⟩ := Option.bind_eq_some_iff.mp h
  obtain ⟨i, -, rfl⟩ := Option.map_eq_some_iff.mp hr
  exact hg g hguard false i

lemma Guard.post_interruption {guard : Option (Guard β)} {preferred : Interruption}
    (h : guard.bind (·.interruption? preferred m) = some o)
    (hg : ∀ g ∈ guard, ∀ started i, post (g.interrupted started i)) : post o := by
  obtain ⟨g, hguard, hr⟩ := Option.bind_eq_some_iff.mp h
  obtain ⟨i, -, rfl⟩ := Option.map_eq_some_iff.mp hr
  exact hg g hguard true i

end Interrupted

namespace Work

variable {σ τ α β : Type}

inductive Shows (view : σ → τ) (waits : τ → Prop) (ends : τ → α → Prop) : τ → Work σ α → Prop
  | done {x : τ} {a : α} : ends x a → Shows view waits ends x (.done a)
  | act {x : τ} {f : σ → σ} {next : σ → Work σ α} :
      (∀ s, view s = x → Shows view waits ends (view (f s)) (next s)) → Shows view waits ends x (.act f next)
  | sleep {x : τ} {ms : Nat} {next : Work σ α} : waits x → Shows view waits ends x next →
      Shows view waits ends x (.sleep ms next)
  | hang {x : τ} : waits x → Shows view waits ends x .hang

def Stop.value? : Stop σ α → Option α
  | .finished a => some a
  | .waiting _ _ => none

def Stop.Shows (view : σ → τ) (waits : τ → Prop) (ends : τ → α → Prop) : Stop σ α × σ → Prop
  | (.finished a, s) => ends (view s) a
  | (.waiting _ rest, s) => waits (view s) ∧ rest.Shows view waits ends (view s)

lemma Shows.run {view : σ → τ} {waits : τ → Prop} {ends : τ → α → Prop} {x : τ} {work : Work σ α}
    (h : work.Shows view waits ends x) (now : Nat) {s : σ} (hs : view s = x) :
    Stop.Shows view waits ends (work.run now s) := by
  induction h generalizing s with
  | done ha =>
    subst hs
    exact ha
  | act _ ih => exact ih s hs rfl
  | @sleep _ ms next hw hn ih =>
    subst hs
    cases ms with
    | zero => exact ih rfl
    | succ ms => exact ⟨hw, hn⟩
  | hang hw =>
    subst hs
    exact ⟨hw, .hang hw⟩

lemma Shows.map {view : σ → τ} {waits : τ → Prop} {ends : τ → α → Prop} {ends' : τ → β → Prop} {f : α → β} {x : τ}
    {work : Work σ α} (h : work.Shows view waits ends x) (hf : ∀ x a, ends x a → ends' x (f a)) :
    (work.map f).Shows view waits ends' x := by
  induction h with
  | done ha => exact .done (hf _ _ ha)
  | act _ ih => exact .act ih
  | sleep hw _ ih => exact .sleep hw ih
  | hang hw => exact .hang hw

lemma shows_map {view : σ → τ} {waits : τ → Prop} {ends : τ → β → Prop} (work : Work σ α) {f : α → β}
    (hw : ∀ x, waits x) (hf : ∀ x a, ends x (f a)) {x : τ} : (work.map f).Shows view waits ends x := by
  induction work generalizing x with
  | done a => exact .done (hf x a)
  | act f next ih => exact .act fun s _ => ih s
  | sleep ms next ih => exact .sleep (hw x) ih
  | hang => exact .hang (hw x)

end Work

/-- A look at a task: the moment, which of two reasons it sees first, and what others have done to the state since the
last look. -/
structure Look (σ : Type) where
  moment : Moment
  preferred : Interruption := .cancelled
  change : σ → σ := id

namespace Task

open Work

variable {σ τ β : Type}

def look (guard : Option (Guard β)) (x : Stop σ (Outcome β) × σ) (l : Look σ) : Stop σ (Outcome β) × σ :=
  match x.1 with
  | .finished o => (.finished o, l.change x.2)
  | .waiting wake rest => Guard.poll guard l.preferred l.moment wake rest (l.change x.2)

lemma look_of_due {guard : Option (Guard β)} {l : Look σ} {wake : Nat} (h : ∀ g ∈ guard, g.signal.check l.moment = none)
    (hwake : wake ≤ l.moment.now) (rest : Work σ (Outcome β)) (s : σ) :
    look guard (.waiting (some wake) rest, s) l = rest.run l.moment.now (l.change s) :=
  Guard.poll_due (Guard.interruption?_eq_none h l.preferred) (by simpa using hwake) rest (l.change s)

def attend (t : Task σ β) (m : Moment) (s : σ) (looks : List (Look σ)) : Stop σ (Outcome β) × σ :=
  looks.foldl (look t.guard) (t.start m s)

variable {t : Task σ β} {m : Moment} {s : σ}

lemma attend_append (looks more : List (Look σ)) :
    t.attend m s (looks ++ more) = more.foldl (look t.guard) (t.attend m s looks) := List.foldl_append

lemma attend_concat (looks : List (Look σ)) (l : Look σ) :
    t.attend m s (looks ++ [l]) = look t.guard (t.attend m s looks) l := attend_append looks [l]

lemma foldl_look_finished (guard : Option (Guard β)) (o : Outcome β) (s : σ) (looks : List (Look σ)) :
    looks.foldl (look guard) (.finished o, s) = (.finished o, looks.foldl (fun s l => l.change s) s) := by
  induction looks generalizing s with
  | nil => rfl
  | cons l looks ih => exact ih (l.change s)

lemma attend_settled (o : Outcome β) (m : Moment) (s : σ) (looks : List (Look σ)) :
    (settled o).attend m s looks = (.finished o, looks.foldl (fun s l => l.change s) s) :=
  foldl_look_finished none o s looks

section Views

variable {view : σ → τ} {waits : τ → Prop} {ends : τ → Outcome β → Prop} {g : Guard β}

section Kept

variable {kept : τ → Prop}

lemma kept_look {x : Stop σ (Outcome β) × σ} {l : Look σ} (hchange : ∀ s, view (l.change s) = view s)
    (guard : Option (Guard β)) (h : Stop.Shows view kept (fun x _ => kept x) x) :
    Stop.Shows view kept (fun x _ => kept x) (look guard x l) := by
  obtain ⟨stop, s⟩ := x
  cases stop with
  | finished o =>
    rw [look, Stop.Shows, hchange s]
    exact h
  | waiting wake rest =>
    obtain ⟨hkept, hrest⟩ := h
    rw [← hchange s] at hkept hrest
    cases hi : guard.bind (·.interruption? l.preferred l.moment) with
    | some o =>
      simp only [look, Guard.poll_interrupted hi]
      exact hkept
    | none =>
      by_cases hwake : wake.any (· ≤ l.moment.now)
      · simp only [look, Guard.poll_due hi hwake]
        exact hrest.run _ rfl
      · simp only [look, Guard.poll_early hi hwake]
        exact ⟨hkept, hrest⟩

lemma kept_attend (hm : t.refusal? m = none) (h : t.work.Shows view kept (fun x _ => kept x) (view s))
    {looks : List (Look σ)} (hlooks : ∀ l ∈ looks, ∀ s, view (l.change s) = view s) :
    kept (view (t.attend m s looks).2) := by
  have hstart : Stop.Shows view kept (fun x _ => kept x) (t.start m s) := by
    rw [start, hm]
    exact h.run _ rfl
  unfold attend
  generalize t.start m s = x at hstart
  induction looks generalizing x with
  | nil =>
    obtain ⟨stop, s⟩ := x
    cases stop with
    | finished o => exact hstart
    | waiting wake rest => exact hstart.1
  | cons l looks ih =>
    obtain ⟨hl, hlooks⟩ := List.forall_mem_cons.mp hlooks
    exact ih hlooks _ (kept_look hl t.guard hstart)

end Kept

end Views

section Outcomes

variable {post : Outcome β → Prop}

structure Always (post : Outcome β → Prop) (t : Task σ β) : Prop where
  work : t.work.Shows (fun _ => ()) (fun _ => True) (fun _ => post) ()
  guard : ∀ g ∈ t.guard, ∀ started i, post (g.interrupted started i)

lemma always_settled {o : Outcome β} (h : post o) : (settled (σ := σ) o).Always post := ⟨.done h, by simp [settled]⟩

lemma Always.map {γ : Type} {f : β → γ} {post' : Outcome γ → Prop} (h : t.Always post)
    (hf : ∀ o, post o → post' (o.map f)) : (t.map f).Always post' := by
  refine ⟨?_, ?_⟩
  · exact h.work.map fun _ o => hf o
  · intro g hg started i
    obtain ⟨g, hg', rfl⟩ := Option.map_eq_some_iff.mp hg
    exact hf _ (h.guard g hg' started i)

lemma always_under {α : Type} (signal : Signal) (work : Work σ (Except LedgerError α))
    {answer : (started : Bool) → Except LedgerError α → Outcome β} (h : ∀ started x, post (answer started x)) :
    (under signal work answer).Always post := by
  refine ⟨shows_map work (fun _ => trivial) fun _ x => h true x, ?_⟩
  intro g hg started i
  cases hg
  exact h started _

lemma Always.look {guard : Option (Guard β)} (hg : ∀ g ∈ guard, ∀ started i, post (g.interrupted started i))
    {x : Stop σ (Outcome β) × σ} (h : Stop.Shows (fun _ => ()) (fun _ => True) (fun _ => post) x) (l : Look σ) :
    Stop.Shows (fun _ => ()) (fun _ => True) (fun _ => post) (look guard x l) := by
  obtain ⟨stop, s⟩ := x
  cases stop with
  | finished o => exact h
  | waiting wake rest =>
    cases hi : guard.bind (·.interruption? l.preferred l.moment) with
    | some o =>
      simp only [Task.look, Guard.poll_interrupted hi]
      exact Guard.post_interruption hi hg
    | none =>
      by_cases hwake : wake.any (· ≤ l.moment.now)
      · simp only [Task.look, Guard.poll_due hi hwake]
        exact h.2.run _ rfl
      · simp only [Task.look, Guard.poll_early hi hwake]
        exact h

lemma Always.attend (h : t.Always post) (m : Moment) (s : σ) (looks : List (Look σ)) :
    Stop.Shows (fun _ => ()) (fun _ => True) (fun _ => post) (t.attend m s looks) := by
  have hstart : Stop.Shows (fun _ => ()) (fun _ => True) (fun _ => post) (t.start m s) := by
    unfold start
    cases hr : t.refusal? m with
    | some o => exact post_refusal hr h.guard
    | none => exact h.work.run _ rfl
  unfold Task.attend
  generalize t.start m s = x at hstart
  induction looks generalizing x with
  | nil => exact hstart
  | cons l looks ih => exact ih _ (Always.look h.guard hstart l)

end Outcomes

end Task

end Passbook
