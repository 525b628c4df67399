import Mathlib.Tactic.Common
import Passbook.Work.Basic

/-! What work does to the part of a state that a view shows: nothing, one operation at most once, or steps of one kind. -/

namespace Passbook.Work

variable {σ τ υ ρ α β : Type}

inductive Quiet (view : σ → τ) (post : α → Prop) : Work σ α → Prop
  | done {a : α} : post a → Quiet view post (.done a)
  | act {f : σ → σ} {next : σ → Work σ α} : (∀ s, view (f s) = view s) → (∀ s, Quiet view post (next s)) →
      Quiet view post (.act f next)
  | sleep {ms : Nat} {next : Work σ α} : Quiet view post next → Quiet view post (.sleep ms next)
  | hang : Quiet view post .hang

/-- Work that does one operation on what the view shows, at one moment, or gives it up. Its value has the property
`early` if it gave up, and one that depends on the result of the operation if it did not. -/
inductive Once (view : σ → τ) (operation : τ → ρ × τ) (early : α → Prop) (late : ρ → α → Prop) : Work σ α → Prop
  | quit {work : Work σ α} : Quiet view early work → Once view operation early late work
  | act {f : σ → σ} {next : σ → Work σ α} : (∀ s, view (f s) = view s) →
      (∀ s, Once view operation early late (next s)) → Once view operation early late (.act f next)
  | sleep {ms : Nat} {next : Work σ α} : Once view operation early late next →
      Once view operation early late (.sleep ms next)
  | operate {f : σ → σ} {next : σ → Work σ α} : (∀ s, view (f s) = (operation (view s)).2) →
      (∀ s, Quiet view (late (operation (view s)).1) (next s)) → Once view operation early late (.act f next)

inductive Respects (view : σ → τ) (R : τ → τ → Prop) : Work σ α → Prop
  | done {a : α} : Respects view R (.done a)
  | act {f : σ → σ} {next : σ → Work σ α} : (∀ s, R (view s) (view (f s))) → (∀ s, Respects view R (next s)) →
      Respects view R (.act f next)
  | sleep {ms : Nat} {next : Work σ α} : Respects view R next → Respects view R (.sleep ms next)
  | hang : Respects view R .hang

lemma map_map {γ : Type} (work : Work σ α) (f : α → β) (g : β → γ) : (work.map f).map g = work.map fun a => g (f a) :=
  bind_assoc work _ _

namespace Quiet

variable {view : σ → τ} {post : α → Prop}

lemma bind {post' : β → Prop} {work : Work σ α} {k : α → Work σ β} (h : Quiet view post work)
    (hk : ∀ a, post a → Quiet view post' (k a)) : Quiet view post' (work.bind k) := by
  induction h with
  | done ha => exact hk _ ha
  | act hf _ ih => exact .act hf ih
  | sleep _ ih => exact .sleep ih
  | hang => exact .hang

lemma map {post' : β → Prop} {work : Work σ α} {f : α → β} (h : Quiet view post work)
    (hf : ∀ a, post a → post' (f a)) : Quiet view post' (work.map f) :=
  h.bind fun a ha => .done (hf a ha)

lemma mono {post' : α → Prop} {work : Work σ α} (h : Quiet view post work) (hp : ∀ a, post a → post' a) :
    Quiet view post' work := by
  induction h with
  | done ha => exact .done (hp _ ha)
  | act hf _ ih => exact .act hf ih
  | sleep _ ih => exact .sleep ih
  | hang => exact .hang

lemma onPart {part : υ → σ} {set : σ → υ → υ} {work : Work σ α} (h : Quiet view post work)
    (hset : ∀ s u, part (set s u) = s) : Quiet (view ∘ part) post (work.onPart part set) := by
  induction h with
  | done ha => exact .done ha
  | act hf _ ih => exact .act (fun u => by simpa [hset] using hf (part u)) fun u => ih (part u)
  | sleep _ ih => exact .sleep ih
  | hang => exact .hang

end Quiet

namespace Once

variable {view : σ → τ} {operation : τ → ρ × τ} {early : α → Prop} {late : ρ → α → Prop}

lemma map {early' : β → Prop} {late' : ρ → β → Prop} {work : Work σ α} {f : α → β}
    (h : Once view operation early late work) (he : ∀ a, early a → early' (f a))
    (hl : ∀ r a, late r a → late' r (f a)) : Once view operation early' late' (work.map f) := by
  induction h with
  | quit hq => exact .quit (hq.map he)
  | act hf _ ih => exact .act hf ih
  | sleep _ ih => exact .sleep ih
  | operate hf hn => exact .operate hf fun s => (hn s).map (hl _)

lemma onPart {part : υ → σ} {set : σ → υ → υ} {work : Work σ α} (h : Once view operation early late work)
    (hset : ∀ s u, part (set s u) = s) : Once (view ∘ part) operation early late (work.onPart part set) := by
  induction h with
  | quit hq => exact .quit (hq.onPart hset)
  | act hf _ ih => exact .act (fun u => by simpa [hset] using hf (part u)) fun u => ih (part u)
  | sleep _ ih => exact .sleep ih
  | operate hf hn => exact .operate (fun u => by simpa [hset] using hf (part u)) fun u => (hn (part u)).onPart hset

lemma forget {work : Work σ α} (h : Once view operation early late work) :
    Once view (fun x => ((), (operation x).2)) (fun _ => True) (fun _ _ => True) work := by
  induction h with
  | quit hq => exact .quit (hq.mono fun _ _ => trivial)
  | act hf _ ih => exact .act hf ih
  | sleep _ ih => exact .sleep ih
  | operate hf hn => exact .operate hf fun s => (hn s).mono fun _ _ => trivial

lemma quiet {work : Work σ α} (h : Once view operation early late work) (hread : ∀ x, (operation x).2 = x) :
    Quiet view (fun a => early a ∨ ∃ r, late r a) work := by
  induction h with
  | quit hq => exact hq.mono fun a ha => .inl ha
  | act hf _ ih => exact .act hf ih
  | sleep _ ih => exact .sleep ih
  | operate hf hn => exact .act (fun s => by rw [hf, hread]) fun s => (hn s).mono fun a ha => .inr ⟨_, ha⟩

lemma of_bind {post : β → Prop} {work : Work σ β} {k : β → Work σ α} (h : Quiet view post work)
    (hk : ∀ b, post b → Once view operation early late (k b)) : Once view operation early late (work.bind k) := by
  induction h with
  | done hb => exact hk _ hb
  | act hf _ ih => exact .act hf ih
  | sleep _ ih => exact .sleep ih
  | hang => exact .quit .hang

lemma modify (operation : τ → ρ × τ) {early : ρ → Prop} {late : ρ → ρ → Prop} (h : ∀ r, late r r) :
    Once id operation early late (Work.modify operation) :=
  .operate (fun _ => rfl) fun _ => .done (h _)

end Once

namespace Respects

variable {view : σ → τ} {R : τ → τ → Prop}

lemma bind {work : Work σ α} {k : α → Work σ β} (h : Respects view R work) (hk : ∀ a, Respects view R (k a)) :
    Respects view R (work.bind k) := by
  induction h with
  | done => exact hk _
  | act hf _ ih => exact .act hf ih
  | sleep _ ih => exact .sleep ih
  | hang => exact .hang

lemma map {work : Work σ α} (h : Respects view R work) (f : α → β) : Respects view R (work.map f) :=
  h.bind fun _ => .done

lemma mono {R' : τ → τ → Prop} {work : Work σ α} (h : Respects view R work) (hR : ∀ x y, R x y → R' x y) :
    Respects view R' work := by
  induction h with
  | done => exact .done
  | act hf _ ih => exact .act (fun s => hR _ _ (hf s)) ih
  | sleep _ ih => exact .sleep ih
  | hang => exact .hang

lemma of_quiet {post : α → Prop} {work : Work σ α} (hR : ∀ x, R x x) (h : Quiet view post work) :
    Respects view R work := by
  induction h with
  | done => exact .done
  | @act f next hf _ ih => exact .act (fun s => hf s ▸ hR (view s)) ih
  | sleep _ ih => exact .sleep ih
  | hang => exact .hang

lemma of_once {operation : τ → ρ × τ} {early : α → Prop} {late : ρ → α → Prop} {work : Work σ α} (hR : ∀ x, R x x)
    (hop : ∀ x, R x (operation x).2) (h : Once view operation early late work) : Respects view R work := by
  induction h with
  | quit hq => exact of_quiet hR hq
  | @act f next hf _ ih => exact .act (fun s => hf s ▸ hR (view s)) ih
  | sleep _ ih => exact .sleep ih
  | @operate f next hf hn => exact .act (fun s => hf s ▸ hop (view s)) fun s => of_quiet hR (hn s)

end Respects

end Passbook.Work
