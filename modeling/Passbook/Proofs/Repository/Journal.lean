import Passbook.Proofs.Work.Looks
import Passbook.Repository.Basic

/-! A repository whose calls and results are written down in a journal. It answers as the repository itself does, and
at the same times. -/

namespace Passbook

inductive Query where
  | addUser (user : UserId)
  | findUser (user : UserId)
  | addTransaction (t : Transaction)
  | history (user : UserId) (page : Page)

abbrev Query.Result : Query → Type
  | .addUser _ | .findUser _ => User
  | .addTransaction _ => Unit
  | .history _ _ => List Transaction

inductive Entry where
  | asked (query : Query)
  | answered (query : Query) (result : Except StoreError query.Result)

structure Journal (σ : Type) where
  state : σ
  entries : List Entry := []

namespace Journal

variable {σ : Type}

def onState (f : σ → σ) (j : Journal σ) : Journal σ := { j with state := f j.state }

def note (e : Entry) (j : Journal σ) : Journal σ := { j with entries := j.entries ++ [e] }

def noted (q : Query) (work : Work σ (Except StoreError q.Result)) : Work (Journal σ) (Except StoreError q.Result) :=
  .act (note (.asked q)) fun _ =>
    (work.onPart state fun s j => { j with state := s }).bind fun x => .act (note (.answered q x)) fun _ => .done x

end Journal

def Repository.journaled {σ : Type} (r : Repository σ) : Repository (Journal σ) where
  addUser user := Journal.noted (.addUser user) (r.addUser user)
  findUser user := Journal.noted (.findUser user) (r.findUser user)
  addTransaction t := Journal.noted (.addTransaction t) (r.addTransaction t)
  history user page := Journal.noted (.history user page) (r.history user page)

def Look.onJournal {σ : Type} (l : Look σ) : Look (Journal σ) := ⟨l.moment, l.preferred, Journal.onState l.change⟩

namespace Work

variable {σ τ α β : Type}

section Entries

variable {waits : List Entry → Prop} {ends : List Entry → β → Prop} {es : List Entry}

lemma shows_onPart {work : Work σ α} {k : α → Work (Journal σ) β} (hw : waits es)
    (hk : ∀ a, (k a).Shows Journal.entries waits ends es) :
    ((work.onPart Journal.state fun s j => { j with state := s }).bind k).Shows Journal.entries waits ends es := by
  induction work with
  | done a => exact hk a
  | act f next ih =>
    apply Shows.act
    rintro j rfl
    exact ih _
  | sleep ms next ih => exact .sleep hw ih
  | hang => exact .hang hw

lemma shows_noted {q : Query} {work : Work σ (Except StoreError q.Result)}
    {k : Except StoreError q.Result → Work (Journal σ) β} (hw : waits (es ++ [.asked q]))
    (hk : ∀ x, (k x).Shows Journal.entries waits ends (es ++ [.asked q, .answered q x])) :
    ((Journal.noted q work).bind k).Shows Journal.entries waits ends es := by
  have hpart : ((work.onPart Journal.state fun s j => { j with state := s }).bind fun x =>
      (Work.act (Journal.note (.answered q x)) fun _ => .done x).bind k).Shows Journal.entries waits ends
        (es ++ [.asked q]) := by
    apply shows_onPart hw
    intro x
    apply Shows.act
    intro j hj
    simpa [Journal.note, hj, bind] using hk x
  rw [← bind_assoc] at hpart
  apply Shows.act
  rintro j rfl
  exact hpart

end Entries

/-- Work that does, on the part of a state that a view shows, what other work does there, with the same waits and the
same value. The rest of the state is its own. -/
inductive Shadows (view : τ → σ) : Work σ α → Work τ α → Prop
  | done {a : α} : Shadows view (.done a) (.done a)
  | act {f : σ → σ} {next : σ → Work σ α} {g : τ → τ} {rest : τ → Work τ α} : (∀ t, view (g t) = f (view t)) →
      (∀ t, Shadows view (next (view t)) (rest t)) → Shadows view (.act f next) (.act g rest)
  | aside {work : Work σ α} {g : τ → τ} {rest : τ → Work τ α} : (∀ t, view (g t) = view t) →
      (∀ t, Shadows view work (rest t)) → Shadows view work (.act g rest)
  | sleep {ms : Nat} {next : Work σ α} {rest : Work τ α} : Shadows view next rest →
      Shadows view (.sleep ms next) (.sleep ms rest)
  | hang : Shadows view .hang .hang

inductive Stop.Shadows (view : τ → σ) : Stop σ α × σ → Stop τ α × τ → Prop
  | finished {a : α} {t : τ} : Shadows view (.finished a, view t) (.finished a, t)
  | waiting {wake : Option Nat} {next : Work σ α} {rest : Work τ α} {t : τ} : next.Shadows view rest →
      Shadows view (.waiting wake next, view t) (.waiting wake rest, t)

namespace Shadows

variable {view : τ → σ} {work : Work σ α} {work' : Work τ α}

lemma bind {k : α → Work σ β} {k' : α → Work τ β} (h : work.Shadows view work')
    (hk : ∀ a, (k a).Shadows view (k' a)) : (work.bind k).Shadows view (work'.bind k') := by
  induction h with
  | done => exact hk _
  | act hg _ ih => exact .act hg ih
  | aside hg _ ih => exact .aside hg ih
  | sleep _ ih => exact .sleep ih
  | hang => exact .hang

lemma map {f : α → β} (h : work.Shadows view work') : (work.map f).Shadows view (work'.map f) := h.bind fun _ => .done

lemma run (h : work.Shadows view work') (now : Nat) (t : τ) :
    Stop.Shadows view (work.run now (view t)) (work'.run now t) := by
  induction h generalizing t with
  | done => exact .finished
  | @act f next g rest hg _ ih =>
    have hrun := ih t (g t)
    rwa [hg] at hrun
  | @aside work g rest hg _ ih =>
    have hrun := ih t (g t)
    rwa [hg] at hrun
  | @sleep ms next rest hn ih =>
    cases ms with
    | zero => exact ih t
    | succ ms => exact .waiting hn
  | hang => exact .waiting .hang

lemma poll {next : Work σ (Outcome β)} {rest : Work τ (Outcome β)} (h : next.Shadows view rest)
    (guard : Option (Guard β)) (preferred : Interruption) (m : Moment) (wake : Option Nat) (t : τ) :
    Stop.Shadows view (Guard.poll guard preferred m wake next (view t)) (Guard.poll guard preferred m wake rest t) := by
  cases hi : guard.bind (·.interruption? preferred m) with
  | some o =>
    rw [Guard.poll_interrupted hi, Guard.poll_interrupted hi]
    exact .finished
  | none =>
    by_cases hwake : wake.any (· ≤ m.now)
    · rw [Guard.poll_due hi hwake, Guard.poll_due hi hwake]
      exact h.run m.now t
    · rw [Guard.poll_early hi hwake, Guard.poll_early hi hwake]
      exact .waiting h

end Shadows

end Work

namespace Task

open Work

variable {σ β : Type} {t : Task σ β} {t' : Task (Journal σ) β}

end Task

end Passbook
