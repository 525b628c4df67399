/-!
Work on a shared state: a tree of effects, each done at once, with waits between them.
-/
namespace Passbook

/-- `act` does its effect and goes on from the state before it; `hang` waits for ever. -/
inductive Work (σ α : Type) where
  | done (value : α)
  | act (effect : σ → σ) (next : σ → Work σ α)
  | sleep (ms : Nat) (next : Work σ α)
  | hang

namespace Work

variable {σ τ α β : Type}

instance [Inhabited α] : Inhabited (Work σ α) := ⟨done default⟩

def modify (f : σ → α × σ) : Work σ α := act (fun s => (f s).2) fun s => done (f s).1

def look (f : σ → α) : Work σ α := modify fun s => (f s, s)

def bind : Work σ α → (α → Work σ β) → Work σ β
  | done a, k => k a
  | act f next, k => act f fun s => (next s).bind k
  | sleep ms next, k => sleep ms (next.bind k)
  | hang, _ => hang

def map (f : α → β) (w : Work σ α) : Work σ β := w.bind fun a => done (f a)

instance : Monad (Work σ) where
  pure := done
  bind := bind

def onPart (get : τ → σ) (set : σ → τ → τ) : Work σ α → Work τ α
  | done a => done a
  | act f next => act (fun t => set (f (get t)) t) fun t => (next (get t)).onPart get set
  | sleep ms next => sleep ms (next.onPart get set)
  | hang => hang

inductive Stop (σ α : Type) where
  | finished (value : α)
  | waiting (wake : Option Nat) (rest : Work σ α)

def run (now : Nat) : Work σ α → σ → Stop σ α × σ
  | done a, s => (.finished a, s)
  | act f next, s => (next s).run now (f s)
  | sleep 0 next, s => next.run now s
  | sleep (ms + 1) next, s => (.waiting (some (now + ms + 1)) next, s)
  | hang, s => (.waiting none hang, s)

theorem bind_assoc {γ : Type} (w : Work σ α) (f : α → Work σ β) (g : β → Work σ γ) :
    (w.bind f).bind g = w.bind fun a => (f a).bind g := by
  induction w with
  | done => rfl
  | act f next ih => simp [bind, ih]
  | sleep ms next ih => simp [bind, ih]
  | hang => rfl

end Work

end Passbook
